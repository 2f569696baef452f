import Freight.Library.Pool
import Freight.Limits.RateLimit

/-! The rate limiter of several instances: one counter a key in Redis, a command at a time. -/

namespace Freight.Limits

/-- What every request under a key is limited to. Every prefix belongs to one limiter. -/
structure KeyLimits where
  windowMs : String → Nat
  max : String → Nat

/-- The value under a key. -/
structure Counter where
  count : Nat
  /-- When it goes, once `PEXPIRE` has been sent. -/
  expiresAt : Option Nat := none
  /-- When `INCR` made it; no code reads it. -/
  born : Nat
  deriving DecidableEq

/-- What an `INCR` counted, written down for the proofs; no code reads it. -/
structure Ticket where
  key : String
  born : Nat
  count : Nat
  time : Nat
  deriving DecidableEq

/-- Redis, the fallback store of each instance, and the time. -/
structure SharedLimits where
  now : Nat := 0
  counters : String → Option Counter := fun _ => none
  memory : Nat → MemoryBuckets := fun _ => .empty
  /-- Written down for the proofs: every `INCR`, and the requests let through by what it counted. -/
  tickets : List Ticket := []
  letThrough : List Ticket := []

/-- The value under a key, while it has not gone. -/
def SharedLimits.counter (limits : SharedLimits) (key : String) : Option Counter :=
  (limits.counters key).filter fun counter => counter.expiresAt.all (limits.now < ·)

/-- What `INCR` makes of it. -/
def SharedLimits.incremented (limits : SharedLimits) (key : String) : Counter :=
  match limits.counter key with
  | some counter => { counter with count := counter.count + 1 }
  | none => { count := 1, born := limits.now }

/-- What an `INCR` counts. -/
def SharedLimits.ticket (limits : SharedLimits) (key : String) : Ticket where
  key := key
  born := (limits.incremented key).born
  count := (limits.incremented key).count
  time := limits.now

/-- `pTTL`, or the whole window where that is not positive. -/
def SharedLimits.ttlMs (limits : SharedLimits) (cfg : KeyLimits) (key : String) : Nat :=
  (((limits.counter key).bind Counter.expiresAt).map (· - limits.now)).getD (cfg.windowMs key)

/-- A request at a limiter, at the await it has reached. -/
inductive LimitCall where
  /-- About to send `INCR`, from this instance. -/
  | incrementing (server : Nat) (key : String)
  /-- About to send `PEXPIRE`. -/
  | expiring (server : Nat) (ticket : Ticket)
  /-- About to send `PTTL`. -/
  | timing (server : Nat) (ticket : Ticket)
  | answered (refusal : Option Refusal)
  /-- Its process stopped. -/
  | stopped
  deriving DecidableEq

/-- A request that is not skipped. -/
structure LimitEntry where
  server : Nat
  key : String
  deriving DecidableEq

/-- What a step of a request does. -/
inductive LimitStatement where
  | nothing
  | incr (key : String)
  | pExpire (key : String)
  /-- The request is answered by what was counted. -/
  | decide (ticket : Ticket)
  /-- Redis failed, and the instance counts for itself. -/
  | fallBack (server : Nat) (key : String)
  deriving DecidableEq

/-- A statement, and what it makes of Redis and of the fallback stores. -/
def LimitStatement.execute (cfg : KeyLimits) (statement : LimitStatement) (limits : SharedLimits) : SharedLimits :=
  match statement with
  | .nothing => limits
  -- A counter that has expired is made anew, with no expiry yet.
  | .incr key =>
    { limits with
      counters := fun other => if other = key then some (limits.incremented key) else limits.counters other
      tickets := limits.tickets ++ [limits.ticket key] }
  | .pExpire key =>
    match limits.counter key with
    | some counter =>
      let expiring := { counter with expiresAt := some (limits.now + cfg.windowMs key) }
      { limits with counters := fun other => if other = key then some expiring else limits.counters other }
    | none => limits
  | .decide ticket =>
    if ticket.count ≤ cfg.max ticket.key then { limits with letThrough := limits.letThrough ++ [ticket] } else limits
  -- Each instance counts in a memory of its own.
  | .fallBack server key =>
    { limits with
      memory := fun other =>
        if other = server then (incrementCounter (limits.memory server) key (cfg.windowMs key) limits.now).1
        else limits.memory other }

/-- What a count is answered with. -/
def refusalFor (cfg : KeyLimits) (key : String) (count : Nat) (ttlMs : Int) : Option Refusal :=
  if cfg.max key < count then some { retryAfter := ⌈(ttlMs : ℚ) / 1000⌉ } else none

/-- The fallback, in the same turn as the failure. -/
def fallBack (cfg : KeyLimits) (limits : SharedLimits) (server : Nat) (key : String) : LimitStatement × LimitCall :=
  let counted := incrementCounter (limits.memory server) key (cfg.windowMs key) limits.now
  (.fallBack server key, .answered (refusalFor cfg key counted.2.1 counted.2.2))

/-- What a request does next; a command may fail. -/
def LimitCall.next (cfg : KeyLimits) (limits : SharedLimits) (fails : Bool) (call : LimitCall) :
    LimitStatement × LimitCall :=
  match call with
  | .incrementing server key =>
    if fails then fallBack cfg limits server key
    -- Only the request that made the counter sets its expiry.
    else (.incr key, if (limits.ticket key).count = 1 then .expiring server (limits.ticket key)
      else .timing server (limits.ticket key))
  | .expiring server ticket =>
    if fails then fallBack cfg limits server ticket.key else (.pExpire ticket.key, .timing server ticket)
  | .timing server ticket =>
    if fails then fallBack cfg limits server ticket.key
    -- The time left is asked for before the answer is given.
    else (.decide ticket, .answered (refusalFor cfg ticket.key ticket.count (limits.ttlMs cfg ticket.key)))
  | .answered refusal => (.nothing, .answered refusal)
  | .stopped => (.nothing, .stopped)

/-- Every request at every instance, interleaved at its commands; meanwhile time passes. -/
def limitSystem (cfg : KeyLimits) :
    CallSystem SharedLimits LimitStatement LimitEntry LimitCall Bool Nat Unit where
  start entry := .incrementing entry.server entry.key
  next := LimitCall.next cfg
  execute := LimitStatement.execute cfg
  -- Redis runs one command after the other, and nothing is locked between two of them.
  holds _ := []
  needs _ := []
  outside passed limits := { limits with now := limits.now + passed }
  outsideNeeds _ := []
  stopped := .stopped

/-- The ticket a request has still to be answered by. -/
def LimitCall.ticket : LimitCall → Option Ticket
  | .expiring _ ticket | .timing _ ticket => some ticket
  | _ => none

section

variable {limits : SharedLimits} {key : String} {counter : Counter}

/-- A value that has not gone. -/
theorem counter_eq_some : limits.counter key = some counter ↔
    limits.counters key = some counter ∧ ∀ expiry, counter.expiresAt = some expiry → limits.now < expiry := by
  -- It is stored, and has no expiry or one still to come.
  unfold SharedLimits.counter
  rw [Option.filter_eq_some_iff]
  simp only [Option.all_eq_true, decide_eq_true_eq]

/-- A value that has gone, or was never there. -/
theorem counter_eq_none : limits.counter key = none ↔
    ∀ counter, limits.counters key = some counter → ∃ expiry, counter.expiresAt = some expiry ∧ expiry ≤ limits.now := by
  -- The value is there or not; there, it counts unless its expiry is past.
  unfold SharedLimits.counter
  cases limits.counters key with
  | none => simp
  | some counter => cases expires : counter.expiresAt <;> simp [Option.filter, expires]

/-- What `INCR` leaves: the value counted further, or a new one. -/
theorem incremented_cases (limits : SharedLimits) (key : String) :
    (∃ counter, limits.counter key = some counter ∧
        limits.incremented key = { counter with count := counter.count + 1 }) ∨
      limits.counter key = none ∧ limits.incremented key = { count := 1, born := limits.now } := by
  -- By whether Redis still has the value.
  unfold SharedLimits.incremented
  cases limits.counter key with
  | none => exact .inr ⟨rfl, rfl⟩
  | some counter => exact .inl ⟨counter, rfl, rfl⟩

end

end Freight.Limits
