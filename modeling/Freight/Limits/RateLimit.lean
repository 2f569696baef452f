import Mathlib.Algebra.Order.Floor.Semiring
import Mathlib.Data.Rat.Floor
import Freight.Library.Run
import Freight.Library.Table
import Freight.Library.Windows

/-! The rate limiter of a single instance: requests counted under keys, in windows that are reset when they are met. -/

namespace Freight.Limits

/-- A bucket of `memoryBuckets`, with its key. Times are in milliseconds. -/
structure Bucket where
  key : String
  count : Nat
  resetAt : Nat
  deriving DecidableEq

/-- `memoryBuckets`. -/
abbrev MemoryBuckets := Table Bucket Bucket.key

/-- The bucket a request is counted in, with the request. -/
def countedIn (memoryBuckets : MemoryBuckets) (key : String) (windowMs now : Nat) : Bucket :=
  let bucket := (memoryBuckets.find? key).getD { key := key, count := 0, resetAt := now + windowMs }
  let bucket := if bucket.resetAt < now then { bucket with count := 0, resetAt := now + windowMs } else bucket
  { bucket with count := bucket.count + 1 }

/-- `incrementCounter`, where there is no Redis: the store, the count and `ttlMs`. -/
def incrementCounter (memoryBuckets : MemoryBuckets) (key : String) (windowMs now : Nat) :
    MemoryBuckets × Nat × Int :=
  let bucket := countedIn memoryBuckets key windowMs now
  (memoryBuckets.upsert bucket (fun row => { row with count := bucket.count, resetAt := bucket.resetAt })
    fun _ => rfl, bucket.count, (bucket.resetAt : Int) - now)

/-- What a limiter is made with. -/
structure RateLimit (Req : Type) where
  windowMs : Nat := 15 * 60 * 1000
  max : Nat := 20
  keyPrefix : String := "global"
  skip : Req → Bool := fun _ => false
  keyFn : Option (Req → Option String) := none

/-- What a request is counted under, where `address` is `req.ip`, or failing that its socket's. -/
def RateLimit.key {Req : Type} (limit : RateLimit Req) (address : Req → Option String) (req : Req) : String :=
  let identity := (limit.keyFn.getD address) req
  "ratelimit:" ++ limit.keyPrefix ++ ":" ++ (identity.filter (· ≠ "")).getD "unknown"

/-- What a request is refused with. -/
structure Refusal where
  status : Nat := 429
  code : String := "RATE_LIMIT_EXCEEDED"
  message : String := "Too many requests. Please try again later."
  /-- The header, in seconds. -/
  retryAfter : Int
  deriving DecidableEq

/-- `rateLimit`: the store, and the refusal unless the request is let through. -/
def rateLimit {Req : Type} (limit : RateLimit Req) (address : Req → Option String) (memoryBuckets : MemoryBuckets)
    (req : Req) (now : Nat) : MemoryBuckets × Option Refusal :=
  if limit.skip req then (memoryBuckets, none)
  else
    let (memoryBuckets, count, ttlMs) := incrementCounter memoryBuckets (limit.key address req) limit.windowMs now
    (memoryBuckets, if limit.max < count then some { retryAfter := ⌈(ttlMs : ℚ) / 1000⌉ } else none)

/-- A request that arrives at a limiter. -/
structure Arrival (Req : Type) where
  limit : RateLimit Req
  req : Req
  now : Nat

/-- What became of a request that was counted, written down for the proofs; no code reads it. -/
structure Decision where
  key : String
  time : Nat
  count : Nat
  resetAt : Nat
  /-- The bucket was new, or it was reset. -/
  resets : Bool
  refusal : Option Refusal
  deriving DecidableEq

/-- What is written down of a request that is counted. -/
def decisionOn (memoryBuckets : MemoryBuckets) (key : String) (windowMs now : Nat) (refusal : Option Refusal) :
    Decision where
  key := key
  time := now
  count := (countedIn memoryBuckets key windowMs now).count
  resetAt := (countedIn memoryBuckets key windowMs now).resetAt
  -- An expired bucket is replaced by a new one.
  resets := (memoryBuckets.find? key).all fun bucket => bucket.resetAt < now
  refusal := refusal

/-- Every limiter of an instance, on the one store. -/
structure Limiter where
  memoryBuckets : MemoryBuckets := .empty
  decisions : List Decision := []

/-- What a request is counted under, if it is not skipped. -/
def Arrival.key? {Req : Type} (address : Req → Option String) (arrival : Arrival Req) : Option String :=
  if arrival.limit.skip arrival.req then none else some (arrival.limit.key address arrival.req)

/-- The decisions on the requests that were counted under a key. -/
def Limiter.under (limiter : Limiter) (key : String) : List Decision :=
  limiter.decisions.filter fun decision => decision.key = key

/-- One request. -/
def Limiter.arrive {Req : Type} (address : Req → Option String) (limiter : Limiter) (arrival : Arrival Req) :
    Limiter :=
  let (memoryBuckets, refusal) :=
    rateLimit arrival.limit address limiter.memoryBuckets arrival.req arrival.now
  { memoryBuckets := memoryBuckets
    decisions := limiter.decisions ++ (arrival.key? address).toList.map fun key =>
      decisionOn limiter.memoryBuckets key arrival.limit.windowMs arrival.now refusal }

end Freight.Limits
