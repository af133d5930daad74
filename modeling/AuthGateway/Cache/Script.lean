import AuthGateway.Cache.Memory

namespace AuthGateway

/-!
Work on the cache, as a script of single operations.

Each operation is atomic, and each may fail.  A script says what to ask next after every answer,
so that the same script can be run by itself or in turns with others.
-/

open Time (Duration Instant)

inductive Operation where
  | get
  | set
  | expire
  | ttl
  | incr
deriving DecidableEq, Repr

def Operation.text : Operation → String
  | .get => "get"
  | .set => "set"
  | .expire => "expire"
  | .ttl => "ttl"
  | .incr => "incr"

/-- What surrounds the work on a cache: the reading of the clock, and which calls fail, and why. -/
structure Conditions where
  now : Instant
  /-- The reason why the call of this number fails, if it does. -/
  outage : Nat → Operation → Option String

/-- A cache and the number of calls that it has had. -/
structure Cache where
  memory : Memory
  calls : Nat

/-- A cache that nobody has called. -/
def Cache.empty : Cache where
  memory := .empty
  calls := 0

/-- Work that ends in a result after some operations. -/
inductive Script (α : Type) where
  | done (result : α)
  | get (key : String) (next : Except CacheError String → Script α)
  | set (key value : String) (next : Except CacheError Unit → Script α)
  | expire (key : String) (span : Duration) (next : Except CacheError Unit → Script α)
  | ttl (key : String) (next : Except CacheError Duration → Script α)
  | incr (key : String) (next : Except CacheError Int → Script α)

namespace Script

variable {α β : Type}

/-- The work of `next` after that of `script`. -/
def bind (script : Script α) (next : α → Script β) : Script β :=
  match script with
  | done result => next result
  | get key rest => get key fun answer => (rest answer).bind next
  | set key value rest => set key value fun answer => (rest answer).bind next
  | expire key span rest => expire key span fun answer => (rest answer).bind next
  | ttl key rest => ttl key fun answer => (rest answer).bind next
  | incr key rest => incr key fun answer => (rest answer).bind next

instance : Monad Script where
  pure := done
  bind := bind

end Script

namespace Cache

/-- The failure of the next call, if it fails. -/
def failure? (c : Cache) (env : Conditions) (operation : Operation) : Option CacheError :=
  (env.outage c.calls operation).map CacheError.backend

/-- The cache after one more call, which leaves it with this memory. -/
def called (c : Cache) (memory : Memory) : Cache where
  memory := memory
  calls := c.calls + 1

/-- A call of the operation: its answer and what it leaves, unless it fails. -/
def attempt {α : Type} (c : Cache) (env : Conditions) (operation : Operation)
    (effect : Except CacheError α × Memory) : Except CacheError α × Cache :=
  match c.failure? env operation with
  | some error => (.error error, c.called c.memory)
  | none => (effect.1, c.called effect.2)

end Cache

namespace Script

variable {α : Type}

/-- The first operation of a script; a script that is done stays so. -/
def step (env : Conditions) (c : Cache) : Script α → Script α × Cache
  | done result => (done result, c)
  | get key next =>
    let (answer, c) := c.attempt env .get (.ok (c.memory.get env.now key), c.memory)
    (next answer, c)
  | set key value next =>
    let (answer, c) := c.attempt env .set (.ok (), c.memory.set key value)
    (next answer, c)
  | expire key span next =>
    let (answer, c) := c.attempt env .expire (.ok (), c.memory.expire env.now key span)
    (next answer, c)
  | ttl key next =>
    let (answer, c) := c.attempt env .ttl (.ok (c.memory.ttl env.now key), c.memory)
    (next answer, c)
  | incr key next =>
    let (answer, c) := c.attempt env .incr (c.memory.incr env.now key)
    (next answer, c)

/-- The whole script, without anything in between. -/
def run (env : Conditions) (c : Cache) : Script α → α × Cache
  | done result => (result, c)
  | get key next =>
    let (answer, c) := c.attempt env .get (.ok (c.memory.get env.now key), c.memory)
    (next answer).run env c
  | set key value next =>
    let (answer, c) := c.attempt env .set (.ok (), c.memory.set key value)
    (next answer).run env c
  | expire key span next =>
    let (answer, c) := c.attempt env .expire (.ok (), c.memory.expire env.now key span)
    (next answer).run env c
  | ttl key next =>
    let (answer, c) := c.attempt env .ttl (.ok (c.memory.ttl env.now key), c.memory)
    (next answer).run env c
  | incr key next =>
    let (answer, c) := c.attempt env .incr (c.memory.incr env.now key)
    (next answer).run env c

end Script

end AuthGateway
