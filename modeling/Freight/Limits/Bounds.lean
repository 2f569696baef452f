import Freight.Limits.RateLimit

/-! What the rate limiter lets through: at most so many requests in a window, and twice as many in any interval. -/

namespace Freight.Limits

/-- The request was let through. -/
def Decision.admitted (decision : Decision) : Bool := decision.refusal.isNone

/-- What the limiter does to the requests that are counted under one key, in the order they come. -/
structure Bounded (windowMs max : Nat) (decisions : List Decision) : Prop where
  /-- From one reset to the next. -/
  window : ∀ before first rest after, decisions = before ++ first :: rest ++ after →
    (∀ decision ∈ rest, decision.resets = false) → (first :: rest).countP Decision.admitted ≤ max
  interval : ∀ start, (decisions.countP fun decision =>
    decision.admitted && start ≤ decision.time && decision.time ≤ start + windowMs) ≤ 2 * max
  /-- A refused request leaves the window it has come in as it is. Nothing at all is let through where `max` is zero. -/
  kept : ∀ before one refused after, decisions = before ++ one :: refused :: after → refused.admitted = false →
    1 ≤ max ∨ refused.time ≤ one.resetAt → refused.resetAt = one.resetAt
  retryAfter : ∀ decision ∈ decisions, ∀ refusal ∈ decision.refusal, 0 ≤ refusal.retryAfter
  /-- The next request is let through when it comes later than it was asked to. -/
  enough : 1 ≤ max → ∀ before refused next after, decisions = before ++ refused :: next :: after →
    ∀ refusal ∈ refused.refusal, (refused.time : Int) + 1000 * refusal.retryAfter < next.time → next.admitted = true

/-- A decision as a hit of its window. -/
def Decision.hit (decision : Decision) : Hit where
  time := decision.time
  count := decision.count
  closes := decision.resetAt

/-- A decision is made by the count, and tells when the window ends. -/
structure Decision.Decided (max : Nat) (decision : Decision) : Prop where
  resets : decision.resets = decide (decision.count = 1)
  refusal : decision.refusal =
    if max < decision.count then some { retryAfter := ⌈(((decision.resetAt : Int) - decision.time : Int) : ℚ) / 1000⌉ }
    else none

/-- What is kept of one key: its bucket is that of the last decision. -/
structure Counted (windowMs max : Nat) (found : Option Bucket) (decisions : List Decision) : Prop where
  windowed : Windowed windowMs (decisions.map Decision.hit)
  decided : ∀ decision ∈ decisions, decision.Decided max
  found : found.map (fun bucket => (bucket.count, bucket.resetAt)) =
    decisions.getLast?.map fun decision => (decision.count, decision.resetAt)

section
variable {windowMs max : Nat} {decisions : List Decision} {decision : Decision}

/-- A request is let through as long as not too many have been counted. -/
theorem Decision.Decided.admitted_iff (decided : decision.Decided max) :
    decision.admitted = true ↔ decision.count ≤ max := by
  -- Admitted is not refused, and refused is over the bound.
  unfold Decision.admitted
  rw [decided.refusal]
  split
  · rename_i over_
    exact iff_of_false (by simp) (Nat.not_le.mpr over_)
  · rename_i within
    exact iff_of_true rfl (Nat.not_lt.mp within)

/-- A wait of whole seconds is long enough. -/
theorem ceil_seconds (ms : Int) : ms ≤ 1000 * ⌈(ms : ℚ) / 1000⌉ := by
  -- Rounding up loses nothing of the wait.
  have enough := Int.le_ceil ((ms : ℚ) / 1000)
  have scaled : (ms : ℚ) ≤ 1000 * (⌈(ms : ℚ) / 1000⌉ : ℚ) := by linarith
  exact_mod_cast scaled

/-- A refusal is decided by the count, and asks to wait until the window has ended. -/
theorem Decision.Decided.refused (decided : decision.Decided max) {refusal : Refusal}
    (refused : refusal ∈ decision.refusal) :
    max < decision.count ∧ refusal.retryAfter = ⌈(((decision.resetAt : Int) - decision.time : Int) : ℚ) / 1000⌉ := by
  -- There is a refusal in the one branch only.
  rw [decided.refusal] at refused
  split at refused
  · rename_i more
    cases refused
    exact ⟨more, rfl⟩
  · cases refused

/-- Of some decisions as many are admitted as have hits counted up to `max`, whatever else is asked of them. -/
theorem Counted.countP_eq {found : Option Bucket} (inv : Counted windowMs max found decisions) {part : List Decision}
    (within : ∀ decision ∈ part, decision ∈ decisions) (asked : Nat → Bool) :
    (part.countP fun decision => decision.admitted && asked decision.time) =
      ((part.map Decision.hit).filter fun hit => hit.count ≤ max && asked hit.time).length := by
  -- The hits are the decisions' own, so both sides count the same ones.
  rw [List.filter_map, List.length_map, ← List.countP_eq_length_filter]
  refine List.countP_congr fun decision member => ?_
  show (decision.admitted && asked decision.time) = true ↔ (decide (decision.count ≤ max) && asked decision.time) = true
  rw [Bool.and_eq_true, Bool.and_eq_true, (inv.decided decision (within decision member)).admitted_iff,
    decide_eq_true_iff]

/-- Each decision follows the one before. -/
theorem Counted.follows {found : Option Bucket} (inv : Counted windowMs max found decisions)
    {before after : List Decision} {one next : Decision} (all : decisions = before ++ one :: next :: after) :
    Hit.Follows windowMs one.hit next.hit := by
  -- In a chain whatever stands side by side is linked.
  have chained := inv.windowed.follows
  rw [all, List.map_append, List.map_cons, List.map_cons] at chained
  exact (List.isChain_append_cons_cons.mp chained).2.1

/-- What is kept bounds every window. -/
theorem Counted.bounded {found : Option Bucket} (inv : Counted windowMs max found decisions) :
    Bounded windowMs max decisions where
  window := by
    rintro before first rest after rfl stays
    -- The requests are hits between two openings of the window, since only its first hit is counted as one.
    have within : ∀ decision ∈ first :: rest, decision ∈ before ++ first :: rest ++ after := by simp +contextual
    have counts := inv.countP_eq within fun _ => true
    simp only [Bool.and_true, List.map_cons] at counts
    rw [counts]
    have all : (before ++ first :: rest ++ after).map Decision.hit =
        before.map Decision.hit ++ first.hit :: rest.map Decision.hit ++ after.map Decision.hit := by simp
    refine inv.windowed.stretch all ?_
    intro hit member
    obtain ⟨decision, listed, rfl⟩ := List.mem_map.mp member
    have unreset := stays decision listed
    rw [(inv.decided decision (by simp [listed])).resets] at unreset
    exact of_decide_eq_false unreset
  interval := by
    intro start
    have counts := inv.countP_eq (fun _ => id) fun time => start ≤ time && time ≤ start + windowMs
    simp only [← Bool.and_assoc] at counts
    rw [counts]
    exact inv.windowed.interval start
  kept := by
    intro before one refused after all turned inside
    obtain ⟨-, follows⟩ := inv.follows all
    split at follows
    · -- Behind the last window the request opens one, and is the first it counts.
      rename_i past
      have decided := inv.decided refused (by simp [all])
      have counted := follows.1
      rw [Bool.eq_false_iff, ne_eq, decided.admitted_iff] at turned
      simp only [Decision.hit] at counted past
      omega
    · exact follows.2
  retryAfter := by
    -- A request is refused before its window ends, and what is left of that is not negative.
    intro decision member refusal refused
    rw [((inv.decided decision member).refused refused).2]
    have within := (inv.windowed.within decision.hit (List.mem_map_of_mem member)).1
    simp only [Decision.hit] at within
    refine Int.ceil_nonneg (div_nonneg ?_ (by norm_num))
    exact_mod_cast Int.sub_nonneg.mpr (Int.ofNat_le.mpr within)
  enough := by
    intro positive before refused next after all refusal turned later
    obtain ⟨-, follows⟩ := inv.follows all
    rw [((inv.decided refused (by simp [all])).refused turned).2] at later
    -- Whole seconds are no less than the time that was left, so the next request opens a window.
    have waited := ceil_seconds ((refused.resetAt : Int) - refused.time)
    have past : refused.hit.closes < next.hit.time := by
      simp only [Decision.hit]
      omega
    rw [if_pos past] at follows
    rw [(inv.decided next (by simp [all])).admitted_iff]
    exact follows.1.le.trans positive

/-- A request opens a window where there is none or the one there is has ended, and is counted in it elsewhere. -/
theorem countedIn_cases (memoryBuckets : MemoryBuckets) (key : String) (windowMs now : Nat) :
    (memoryBuckets.find? key).all (fun bucket => bucket.resetAt < now) = true ∧
        countedIn memoryBuckets key windowMs now = { key := key, count := 1, resetAt := now + windowMs } ∨
      ∃ bucket, memoryBuckets.find? key = some bucket ∧ ¬ bucket.resetAt < now ∧
        countedIn memoryBuckets key windowMs now = { bucket with count := bucket.count + 1 } := by
  unfold countedIn
  cases found : memoryBuckets.find? key with
  | none =>
    refine .inl ⟨rfl, ?_⟩
    simp
  | some bucket =>
    -- The bucket that is found has the key it was looked up by.
    have own := (Table.find?_eq_some.mp found).2
    by_cases past : bucket.resetAt < now
    · refine .inl ⟨decide_eq_true past, ?_⟩
      simp [past, own]
    · exact .inr ⟨bucket, rfl, past, by simp [past]⟩

/-- The bucket is under the key it was asked for. -/
theorem countedIn_key (memoryBuckets : MemoryBuckets) (key : String) (windowMs now : Nat) :
    (countedIn memoryBuckets key windowMs now).key = key := by
  -- A fresh bucket is made for the key; an old one was found under it.
  rcases countedIn_cases memoryBuckets key windowMs now with ⟨-, fresh⟩ | ⟨bucket, found, -, counted⟩
  · rw [fresh]
  · rw [counted]
    exact (Table.find?_eq_some.mp found).2

/-- What is found after a request was counted: its bucket under its own key, and what there was under every other. -/
theorem find?_incrementCounter (memoryBuckets : MemoryBuckets) (key : String) (windowMs now : Nat) (other : String) :
    ((incrementCounter memoryBuckets key windowMs now).1.find? other).map
        (fun bucket => (bucket.count, bucket.resetAt)) =
      if other = key then
        some ((countedIn memoryBuckets key windowMs now).count, (countedIn memoryBuckets key windowMs now).resetAt)
      else (memoryBuckets.find? other).map fun bucket => (bucket.count, bucket.resetAt) := by
  unfold incrementCounter
  rw [Table.find?_upsert, countedIn_key]
  split
  · -- Under the key itself, the bucket is replaced where there is one and added where there is none.
    cases memoryBuckets.find? other <;> rfl
  · rfl

/-- There is a bucket where there has been a decision, and it is as that left it. -/
theorem Counted.bucket {found : Option Bucket} (inv : Counted windowMs max found decisions) {last : Decision}
    (ends : decisions.getLast? = some last) :
    ∃ bucket, found = some bucket ∧ bucket.count = last.count ∧ bucket.resetAt = last.resetAt := by
  -- What is known of the bucket is read off the last decision.
  have same := inv.found
  rw [ends] at same
  obtain ⟨bucket, is, both⟩ := Option.map_eq_some_iff.mp same
  obtain ⟨count, resetAt⟩ := Prod.mk.inj both
  exact ⟨bucket, is, count, resetAt⟩

/-- What is kept of a key is kept when a request is counted under it, no earlier than the last one. -/
theorem Counted.concat {memoryBuckets : MemoryBuckets} {key : String} {now : Nat} {refusal : Option Refusal}
    (inv : Counted windowMs max (memoryBuckets.find? key) decisions)
    (later : ∀ last ∈ decisions.getLast?, last.time ≤ now) {found : Option Bucket}
    (stored : found.map (fun bucket => (bucket.count, bucket.resetAt)) =
      some ((countedIn memoryBuckets key windowMs now).count, (countedIn memoryBuckets key windowMs now).resetAt))
    (new : (decisionOn memoryBuckets key windowMs now refusal).Decided max) :
    Counted windowMs max found (decisions ++ [decisionOn memoryBuckets key windowMs now refusal]) where
  windowed := by
    rw [List.map_append, List.map_singleton]
    have cases_ := countedIn_cases memoryBuckets key windowMs now
    refine inv.windowed.concat (fun none => ?_) fun hit ends => ?_
    · -- The first request of the key finds no bucket, and opens a window.
      rcases cases_ with ⟨-, fresh⟩ | ⟨bucket, found, -, -⟩
      · simp [Hit.Opens, Decision.hit, decisionOn, fresh]
      · have same := inv.found
        rw [List.map_eq_nil_iff.mp none, found] at same
        cases same
    · -- Any other finds the bucket of the last one, in a window that has ended or has not.
      rw [List.getLast?_map] at ends
      obtain ⟨last, lasts, rfl⟩ := Option.map_eq_some_iff.mp ends
      obtain ⟨bucket, found, count, resetAt⟩ := inv.bucket lasts
      refine ⟨later last lasts, ?_⟩
      show if last.resetAt < now then _ else _
      rcases cases_ with ⟨past, fresh⟩ | ⟨other, same, open_, counted⟩
      · rw [found] at past
        rw [if_pos (resetAt ▸ of_decide_eq_true past)]
        simp [Hit.Opens, Decision.hit, decisionOn, fresh]
      · cases found.symm.trans same
        rw [if_neg (resetAt ▸ open_)]
        simp [Decision.hit, decisionOn, counted, count, resetAt]
  decided := by
    intro decision member
    rcases List.mem_append.mp member with old | added
    · exact inv.decided decision old
    · rw [List.mem_singleton.mp added]
      exact new
  found := by
    rw [stored, List.getLast?_concat]
    rfl

/-- The decision on a request is made by the count. -/
theorem decisionOn_decided {memoryBuckets : MemoryBuckets} {key : String} {now : Nat} {refusal : Option Refusal}
    (inv : Counted windowMs max (memoryBuckets.find? key) decisions)
    (refuses : refusal = if max < (incrementCounter memoryBuckets key windowMs now).2.1 then
      some { retryAfter := ⌈((incrementCounter memoryBuckets key windowMs now).2.2 : ℚ) / 1000⌉ } else none) :
    (decisionOn memoryBuckets key windowMs now refusal).Decided max where
  resets := by
    rcases countedIn_cases memoryBuckets key windowMs now with ⟨past, fresh⟩ | ⟨bucket, found, open_, counted⟩
    · simp only [decisionOn, past, fresh, decide_true]
    · -- The bucket has counted a request before this one.
      cases ends : decisions.getLast? with
      | none =>
        have same := inv.found
        rw [ends, found] at same
        cases same
      | some last =>
        obtain ⟨other, is, count, -⟩ := inv.bucket ends
        cases found.symm.trans is
        have positive := (inv.windowed.within last.hit (List.mem_map_of_mem (List.mem_of_getLast? ends))).2.2
        simp only [Decision.hit] at positive
        have more : bucket.count + 1 ≠ 1 := by omega
        simp only [decisionOn, found, Option.all_some, counted, decide_eq_false open_, decide_eq_false more]
  refusal := refuses

end

section Arrivals

variable {Req : Type} {address : Req → Option String} {limiter : Limiter} {arrival : Arrival Req} {key : String}

/-- A request that is counted under no key or another one leaves a key as it is. -/
theorem arrive_other (other : arrival.key? address ≠ some key) :
    (limiter.arrive address arrival).memoryBuckets.find? key = limiter.memoryBuckets.find? key ∧
      (limiter.arrive address arrival).under key = limiter.under key := by
  -- It is skipped, or it counts under its own key and writes that bucket alone.
  unfold Arrival.key? at other
  by_cases skipped : arrival.limit.skip arrival.req = true
  · simp [Limiter.arrive, Limiter.under, rateLimit, Arrival.key?, skipped]
  · have apart : arrival.limit.key address arrival.req ≠ key := by simpa [skipped] using other
    constructor
    · simp only [Limiter.arrive, rateLimit, skipped, Bool.false_eq_true, if_false, incrementCounter,
        Table.find?_upsert, countedIn_key, if_neg apart.symm]
    · simp [Limiter.arrive, Limiter.under, rateLimit, Arrival.key?, skipped, decisionOn, apart]

/-- A request that is counted under a key is decided there. -/
theorem arrive_own (own : arrival.key? address = some key) :
    ∃ refusal, refusal = (if arrival.limit.max <
        (incrementCounter limiter.memoryBuckets key arrival.limit.windowMs arrival.now).2.1 then
          some { retryAfter :=
            ⌈((incrementCounter limiter.memoryBuckets key arrival.limit.windowMs arrival.now).2.2 : ℚ) / 1000⌉ }
        else none) ∧
      (limiter.arrive address arrival).memoryBuckets =
        (incrementCounter limiter.memoryBuckets key arrival.limit.windowMs arrival.now).1 ∧
      (limiter.arrive address arrival).under key = limiter.under key ++
        [decisionOn limiter.memoryBuckets key arrival.limit.windowMs arrival.now refusal] := by
  -- The request is under that key because it is not skipped.
  have counted : ¬ arrival.limit.skip arrival.req = true ∧ arrival.limit.key address arrival.req = key := by
    simpa [Arrival.key?] using own
  obtain ⟨skipped, rfl⟩ := counted
  refine ⟨_, rfl, ?_, ?_⟩
  · simp [Limiter.arrive, rateLimit, skipped]
  · simp [Limiter.arrive, Limiter.under, rateLimit, own, skipped, decisionOn]

/-- What is kept of a key is kept by every run of requests, in whatever order those under it do not come back in time. -/
theorem run_counted {windowMs max : Nat} {arrivals : List (Arrival Req)}
    (ordered : ((arrivals.filter fun arrival => arrival.key? address = some key).map Arrival.now).Pairwise (· ≤ ·))
    (uniform : ∀ arrival ∈ arrivals, arrival.key? address = some key →
      arrival.limit.windowMs = windowMs ∧ arrival.limit.max = max) :
    Counted windowMs max ((run (Limiter.arrive address) {} arrivals).memoryBuckets.find? key)
        ((run (Limiter.arrive address) {} arrivals).under key) ∧
      ((run (Limiter.arrive address) {} arrivals).under key).map Decision.time =
        (arrivals.filter fun arrival => arrival.key? address = some key).map Arrival.now := by
  -- Requests are taken off the end: the buckets say what the ones before have left.
  induction arrivals using List.reverseRecOn with
  | nil => exact ⟨⟨.nil, by simp [Limiter.under], rfl⟩, rfl⟩
  | append_singleton before arrival ih =>
    rw [List.filter_append, List.map_append, List.pairwise_append] at ordered
    obtain ⟨inv, times⟩ := ih ordered.1 fun other member => uniform other (List.mem_append_left _ member)
    rw [run_append, run_cons, run_nil]
    by_cases own : arrival.key? address = some key
    · -- It comes no earlier than the last one under its key.
      obtain ⟨sameWindow, sameMax⟩ := uniform arrival (by simp) own
      obtain ⟨refusal, refuses, buckets, decisions⟩ := @arrive_own _ _ (run (Limiter.arrive address) {} before) _ _ own
      rw [sameWindow, sameMax] at refuses
      rw [sameWindow] at buckets decisions
      rw [buckets, decisions]
      constructor
      · refine inv.concat ?_ ?_ (decisionOn_decided inv refuses)
        · intro last ends
          have listed := List.mem_map_of_mem (f := Decision.time) (List.mem_of_getLast? ends)
          rw [times] at listed
          exact ordered.2.2 _ listed _ (by simp [own])
        · rw [find?_incrementCounter, if_pos rfl]
      · rw [List.map_append, times, List.filter_append, List.map_append]
        simp [own, decisionOn]
    · obtain ⟨buckets, decisions⟩ := @arrive_other _ _ (run (Limiter.arrive address) {} before) _ _ own
      rw [buckets, decisions, List.filter_append, List.map_append]
      refine ⟨inv, ?_⟩
      simpa [own] using times

/--
The limiter bounds every window of every key.

Whatever else is counted meanwhile, by whatever limiters.
-/
theorem limiter_bounded {windowMs max : Nat} {arrivals : List (Arrival Req)}
    (ordered : ((arrivals.filter fun arrival => arrival.key? address = some key).map Arrival.now).Pairwise (· ≤ ·))
    (uniform : ∀ arrival ∈ arrivals, arrival.key? address = some key →
      arrival.limit.windowMs = windowMs ∧ arrival.limit.max = max) :
    Bounded windowMs max ((run (Limiter.arrive address) {} arrivals).under key) :=
  (run_counted ordered uniform).1.bounded

end Arrivals

/-- One guess a second, from each address. -/
def oneASecond : RateLimit String := { windowMs := 1000, max := 1, keyPrefix := "login" }

/-- Three guesses from one address, the last of them later than the second is asked to wait, and one from another. -/
def fourGuesses : List (Arrival String) :=
  [{ limit := oneASecond, req := "10.0.0.1", now := 0 }, { limit := oneASecond, req := "10.0.0.2", now := 300 },
    { limit := oneASecond, req := "10.0.0.1", now := 500 }, { limit := oneASecond, req := "10.0.0.1", now := 1501 }]

/-- The second guess is refused, and the third let through again. -/
theorem limiter_bounded_fourGuesses :
    Bounded 1000 1 ((run (Limiter.arrive some) {} fourGuesses).under "ratelimit:login:10.0.0.1") ∧
      ((run (Limiter.arrive some) {} fourGuesses).under "ratelimit:login:10.0.0.1").map Decision.refusal =
        [none, some { retryAfter := 1 }, none] :=
  ⟨limiter_bounded (by decide +kernel) (by decide +kernel), by decide +kernel⟩

end Freight.Limits
