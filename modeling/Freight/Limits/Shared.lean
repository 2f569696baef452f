import Freight.Limits.Redis

/-! What a shared counter lets through, however the instances interleave and wherever Redis fails. -/

namespace Freight.Limits

/-- A later count: further on in the life of one value, or in a later life, a window behind. -/
def Ticket.Behind (cfg : KeyLimits) (one later : Ticket) : Prop :=
  one.key = later.key →
    one.born = later.born ∧ one.count < later.count ∨
      one.born + cfg.windowMs one.key ≤ later.born ∧ one.time < later.born

/-- Where a count stands with the value under its key: it was made in its life, or in an earlier one. -/
def Ticket.Dates (cfg : KeyLimits) (ticket : Ticket) (counter : Counter) : Prop :=
  (ticket.born = counter.born ∧ ticket.count ≤ counter.count ∧
      ∀ expiry, counter.expiresAt = some expiry → ticket.time < expiry) ∨
    ticket.born + cfg.windowMs ticket.key ≤ counter.born ∧ ticket.time < counter.born

/-- What is true of one count. -/
structure Ticket.Kept (cfg : KeyLimits) (limits : SharedLimits) (ticket : Ticket) : Prop where
  counted : 1 ≤ ticket.count
  born : ticket.born ≤ ticket.time
  past : ticket.time ≤ limits.now
  dates : ∃ counter, limits.counters ticket.key = some counter ∧ ticket.Dates cfg counter

/-- What is true of one value. -/
structure Counter.Kept (cfg : KeyLimits) (now : Nat) (key : String) (counter : Counter) : Prop where
  counted : 1 ≤ counter.count
  born : counter.born ≤ now
  lives : ∀ expiry, counter.expiresAt = some expiry → counter.born + cfg.windowMs key ≤ expiry

/-- What every interleaving keeps. -/
structure Ticketed (cfg : KeyLimits) (limits : SharedLimits) (calls : List LimitCall) : Prop where
  counters : ∀ key counter, limits.counters key = some counter → counter.Kept cfg limits.now key
  ordered : limits.tickets.Pairwise (Ticket.Behind cfg)
  each : ∀ ticket ∈ limits.tickets, ticket.Kept cfg limits
  /-- What is let through and what is still to be answered was counted, and nothing of it twice. -/
  once : (limits.letThrough ++ calls.filterMap LimitCall.ticket).Nodup
  owned : ∀ ticket ∈ limits.letThrough ++ calls.filterMap LimitCall.ticket, ticket ∈ limits.tickets
  admitted : ∀ ticket ∈ limits.letThrough, ticket.count ≤ cfg.max ticket.key

section Steps

variable {cfg : KeyLimits} {limits : SharedLimits} {key : String} {calls : List LimitCall}

/-- A count that is made now is behind every count made before. -/
theorem behind_ticket {ticket : Ticket} (kept : ticket.Kept cfg limits)
    (counters : ∀ key counter, limits.counters key = some counter → counter.Kept cfg limits.now key) :
    ticket.Behind cfg (limits.ticket key) := by
  intro same
  obtain ⟨counter, there, dates⟩ := kept.dates
  have lives := counters _ _ there
  subst same
  unfold SharedLimits.ticket
  rcases incremented_cases limits ticket.key with ⟨alive, found, counted⟩ | ⟨gone, anew⟩
  · -- The value counts on: it is the one the count was made in, or a later one.
    rw [counted]
    obtain rfl : counter = alive := Option.some.inj (there.symm.trans (counter_eq_some.mp found).1)
    rcases dates with ⟨born, less, -⟩ | older
    · exact .inl ⟨born, Nat.lt_succ_of_le less⟩
    · exact .inr older
  · -- A new life begins no sooner than the last one's expiry.
    rw [anew]
    obtain ⟨expiry, expires, past⟩ := counter_eq_none.mp gone counter there
    have full := lives.lives expiry expires
    have begun := lives.born
    rcases dates with ⟨born, -, before⟩ | ⟨earlier, before⟩
    · have sooner := before expiry expires
      exact .inr ⟨by simp only; omega, by simp only; omega⟩
    · exact .inr ⟨by simp only; omega, by simp only; omega⟩

/-- Nothing is counted twice. -/
theorem ticket_fresh (ticketed : Ticketed cfg limits calls) :
    limits.ticket key ∉ limits.tickets := by
  -- Behind itself it would have a smaller count, or a later birth.
  intro before
  have kept := ticketed.each _ before
  have born := kept.born
  rcases behind_ticket kept ticketed.counters rfl with ⟨-, less⟩ | ⟨-, later⟩
  · exact Nat.lt_irrefl _ less
  · omega

/-- What an `INCR` counts dates from the value it leaves. -/
theorem dates_ticket (counters : ∀ key counter, limits.counters key = some counter → counter.Kept cfg limits.now key) :
    1 ≤ (limits.ticket key).count ∧ (limits.ticket key).born ≤ limits.now ∧
      (limits.ticket key).Dates cfg (limits.incremented key) := by
  -- A value that was alive is counted on, and one that was not begins now.
  unfold SharedLimits.ticket
  rcases incremented_cases limits key with ⟨counter, found, counted⟩ | ⟨-, anew⟩
  · obtain ⟨there, alive⟩ := counter_eq_some.mp found
    have kept := counters key counter there
    rw [counted]
    exact ⟨Nat.le_add_left _ _, kept.born, .inl ⟨rfl, Nat.le_refl _, alive⟩⟩
  · rw [anew]
    exact ⟨Nat.le_refl _, Nat.le_refl _, .inl ⟨rfl, Nat.le_refl _, nofun⟩⟩

/-- The value an `INCR` leaves is in order. -/
theorem kept_incremented
    (counters : ∀ key counter, limits.counters key = some counter → counter.Kept cfg limits.now key) :
    (limits.incremented key).Kept cfg limits.now key := by
  -- Counted on, its birth and expiry stay; new, it has no expiry.
  rcases incremented_cases limits key with ⟨counter, found, counted⟩ | ⟨-, anew⟩
  · have kept := counters key counter (counter_eq_some.mp found).1
    rw [counted]
    exact ⟨Nat.le_add_left _ _, kept.born, kept.lives⟩
  · rw [anew]
    exact ⟨Nat.le_refl _, Nat.le_refl _, nofun⟩

/-- A count that was made before an `INCR` dates from what that leaves. -/
theorem Ticket.Kept.incr {ticket : Ticket} (kept : ticket.Kept cfg limits)
    (counters : ∀ key counter, limits.counters key = some counter → counter.Kept cfg limits.now key) :
    ticket.Kept cfg ((LimitStatement.incr key).execute cfg limits) := by
  refine ⟨kept.counted, kept.born, kept.past, ?_⟩
  show ∃ counter, (if ticket.key = key then some (limits.incremented key) else limits.counters ticket.key) =
    some counter ∧ _
  by_cases own : ticket.key = key
  · rw [if_pos own]
    refine ⟨_, rfl, ?_⟩
    subst own
    -- It is behind none of what is counted now.
    have born := (@dates_ticket _ _ ticket.key counters).2.1
    have alive := @kept_incremented _ _ ticket.key counters
    rcases behind_ticket kept counters rfl with ⟨same, less⟩ | older
    · refine .inl ⟨same, Nat.le_of_lt less, fun expiry expires => ?_⟩
      rcases incremented_cases limits ticket.key with ⟨counter, found, counted⟩ | ⟨-, anew⟩
      · rw [counted] at expires
        have ahead := (counter_eq_some.mp found).2 expiry expires
        have past := kept.past
        omega
      · rw [anew] at expires
        cases expires
    · exact .inr older
  · rw [if_neg own]
    exact kept.dates

/-- Nor does an expiry that is set now change what dates from the value. -/
theorem Ticket.Kept.pExpire {ticket : Ticket} (windows : ∀ key, 0 < cfg.windowMs key) (kept : ticket.Kept cfg limits) :
    ticket.Kept cfg ((LimitStatement.pExpire key).execute cfg limits) := by
  simp only [LimitStatement.execute]
  cases found : limits.counter key with
  | none => exact kept
  | some alive =>
    refine ⟨kept.counted, kept.born, kept.past, ?_⟩
    obtain ⟨counter, there, dates⟩ := kept.dates
    -- Only the value under the expiry's own key is written, and it keeps its birth.
    by_cases own : ticket.key = key
    · subst own
      obtain rfl : counter = alive := Option.some.inj (there.symm.trans (counter_eq_some.mp found).1)
      refine ⟨_, if_pos rfl, ?_⟩
      rcases dates with ⟨born, less, -⟩ | older
      · refine .inl ⟨born, less, ?_⟩
        rintro _ ⟨⟩
        have wide := windows ticket.key
        have past := kept.past
        omega
      · exact .inr older
    · exact ⟨counter, by rw [← there]; exact if_neg own, dates⟩

/-- The values after an expiry is set are in order. -/
theorem kept_pExpire (counters : ∀ key counter, limits.counters key = some counter → counter.Kept cfg limits.now key)
    (other : String) (counter : Counter)
    (found : ((LimitStatement.pExpire key).execute cfg limits).counters other = some counter) :
    counter.Kept cfg limits.now other := by
  -- Nothing is written unless the value is alive, and then its expiry alone.
  simp only [LimitStatement.execute] at found
  cases alive : limits.counter key with
  | none =>
    rw [alive] at found
    exact counters other counter found
  | some own =>
    rw [alive] at found
    simp only at found
    split at found
    · rename_i same
      subst same
      cases found
      have kept := counters _ own (counter_eq_some.mp alive).1
      refine ⟨kept.counted, kept.born, ?_⟩
      rintro _ ⟨⟩
      exact Nat.add_le_add_right kept.born _
    · exact counters other counter found

/-- What is owned stays so when a request lets go of its ticket. -/
theorem Ticketed.dropped {call next : LimitCall} {others : List LimitCall} {later : SharedLimits}
    (ticketed : Ticketed cfg limits (call :: others)) (idle : next.ticket = none)
    (counters : later.counters = limits.counters) (now : later.now = limits.now) (tickets : later.tickets = limits.tickets)
    (through : later.letThrough = limits.letThrough) : Ticketed cfg later (next :: others) := by
  -- What is held of the tickets is part of what was held.
  have fewer : List.Sublist (limits.letThrough ++ (next :: others).filterMap LimitCall.ticket)
      (limits.letThrough ++ (call :: others).filterMap LimitCall.ticket) := by
    rw [List.filterMap_cons_none idle]
    exact (List.Sublist.filterMap _ (List.sublist_cons_self call others)).append_left _
  refine ⟨?_, ?_, ?_, ?_, ?_, ?_⟩
  · rw [counters, now]
    exact ticketed.counters
  · rw [tickets]
    exact ticketed.ordered
  · rw [tickets]
    intro ticket member
    have kept := ticketed.each ticket member
    exact ⟨kept.counted, kept.born, now ▸ kept.past, counters ▸ kept.dates⟩
  · rw [through]
    exact ticketed.once.sublist fewer
  · rw [through, tickets]
    exact fun ticket member => ticketed.owned ticket (fewer.subset member)
  · rw [through]
    exact ticketed.admitted

/-- A request that is answered hands its ticket over, or lets go of it. -/
theorem Ticketed.decided {call next : LimitCall} {others : List LimitCall} {ticket : Ticket}
    (ticketed : Ticketed cfg limits (call :: others)) (held : call.ticket = some ticket) (idle : next.ticket = none) :
    Ticketed cfg ((LimitStatement.decide ticket).execute cfg limits) (next :: others) := by
  -- Let through, the ticket passes from the request to the list; refused, it is dropped.
  simp only [LimitStatement.execute]
  split
  · rename_i within
    have same : limits.letThrough ++ [ticket] ++ (next :: others).filterMap LimitCall.ticket =
        limits.letThrough ++ (call :: others).filterMap LimitCall.ticket := by
      rw [List.filterMap_cons_none idle, List.filterMap_cons_some held, List.append_assoc]
      rfl
    refine ⟨ticketed.counters, ticketed.ordered, fun one member => ?_, ?_, ?_, ?_⟩
    · have kept := ticketed.each one member
      exact ⟨kept.counted, kept.born, kept.past, kept.dates⟩
    · rw [same]
      exact ticketed.once
    · rw [same]
      exact ticketed.owned
    · intro one member
      rcases List.mem_append.mp member with old | new
      · exact ticketed.admitted one old
      · rw [List.mem_singleton.mp new]
        exact within
  · exact ticketed.dropped idle rfl rfl rfl rfl

/-- A request that counts holds the ticket. -/
theorem Ticketed.counts {call next : LimitCall} {others : List LimitCall}
    (ticketed : Ticketed cfg limits (call :: others)) (idle : call.ticket = none)
    (holds : next.ticket = some (limits.ticket key)) :
    Ticketed cfg ((LimitStatement.incr key).execute cfg limits) (next :: others) := by
  -- The new ticket is none of the old, and its value dates from now or from before.
  have fresh := @ticket_fresh _ _ key _ ticketed
  have once := ticketed.once
  have owned := ticketed.owned
  rw [List.filterMap_cons_none idle] at once owned
  refine ⟨?_, ?_, ?_, ?_, ?_, ticketed.admitted⟩
  · intro other counter found
    -- It is the counter of this request, or another's.
    by_cases own : other = key
    · subst own
      cases (if_pos rfl).symm.trans found
      exact kept_incremented ticketed.counters
    · exact ticketed.counters other counter ((if_neg own).symm.trans found)
  · refine List.pairwise_append.mpr ⟨ticketed.ordered, List.pairwise_singleton _ _, fun one before last is => ?_⟩
    rw [List.mem_singleton.mp is]
    exact behind_ticket (ticketed.each one before) ticketed.counters
  · intro one member
    rcases List.mem_append.mp member with old | new
    · exact (ticketed.each one old).incr ticketed.counters
    · rw [List.mem_singleton.mp new]
      obtain ⟨counted, born, dates⟩ := @dates_ticket _ _ key ticketed.counters
      exact ⟨counted, born, Nat.le_refl _, _, if_pos rfl, dates⟩
  · show (limits.letThrough ++ (next :: others).filterMap LimitCall.ticket).Nodup
    rw [List.filterMap_cons_some holds]
    refine List.perm_middle.nodup_iff.mpr (List.nodup_cons.mpr ⟨fun had => fresh (owned _ had), once⟩)
  · show ∀ one ∈ limits.letThrough ++ (next :: others).filterMap LimitCall.ticket, one ∈ limits.tickets ++ [_]
    rw [List.filterMap_cons_some holds]
    -- An older ticket dates from before, and the new one from now.
    intro one member
    rcases List.mem_cons.mp (List.perm_middle.mem_iff.mp member) with rfl | old
    · exact List.mem_append_right _ (List.mem_singleton_self _)
    · exact List.mem_append_left _ (owned one old)

/-- A request that sets the expiry keeps its ticket. -/
theorem Ticketed.expires {call next : LimitCall} {others : List LimitCall} (windows : ∀ key, 0 < cfg.windowMs key)
    (ticketed : Ticketed cfg limits (call :: others)) (same : next.ticket = call.ticket) :
    Ticketed cfg ((LimitStatement.pExpire key).execute cfg limits) (next :: others) := by
  -- No ticket is drawn, dropped or let through.
  have alike : ((LimitStatement.pExpire key).execute cfg limits).tickets = limits.tickets ∧
      ((LimitStatement.pExpire key).execute cfg limits).letThrough = limits.letThrough ∧
      ((LimitStatement.pExpire key).execute cfg limits).now = limits.now := by
    simp only [LimitStatement.execute]
    split <;> exact ⟨rfl, rfl, rfl⟩
  obtain ⟨tickets, through, now⟩ := alike
  have held : (next :: others).filterMap LimitCall.ticket = (call :: others).filterMap LimitCall.ticket := by
    simp only [List.filterMap_cons, same]
  refine ⟨?_, ?_, ?_, ?_, ?_, ?_⟩
  · rw [now]
    exact kept_pExpire ticketed.counters
  · rw [tickets]
    exact ticketed.ordered
  · rw [tickets]
    exact fun ticket member => (ticketed.each ticket member).pExpire windows
  · rw [through, held]
    exact ticketed.once
  · rw [through, held, tickets]
    exact ticketed.owned
  · rw [through]
    exact ticketed.admitted

end Steps

/-- Every event keeps the counts in order. -/
theorem ticketed_keeps (cfg : KeyLimits) (windows : ∀ key, 0 < cfg.windowMs key) :
    (limitSystem cfg).Keeps (Ticketed cfg) fun _ _ => True where
  perm same ticketed :=
    have held := (same.filterMap LimitCall.ticket).append_left _
    ⟨ticketed.counters, ticketed.ordered, ticketed.each, held.nodup_iff.mp ticketed.once,
      fun ticket member => ticketed.owned ticket (held.mem_iff.mpr member), ticketed.admitted⟩
  moves := by
    intro pool index fails call others taken ticketed _
    show Ticketed cfg ((call.next cfg pool.shared fails).1.execute cfg pool.shared)
      ((call.next cfg pool.shared fails).2 :: others)
    -- Each statement of a request in turn, where it works and where it fails.
    cases call with
    | incrementing server key =>
      cases fails with
      | true => exact ticketed.dropped rfl rfl rfl rfl rfl
      | false =>
        refine ticketed.counts rfl ?_
        show (ite _ _ _ : LimitCall).ticket = _
        split <;> rfl
    | expiring server ticket =>
      cases fails with
      | true => exact ticketed.dropped rfl rfl rfl rfl rfl
      | false => exact ticketed.expires windows rfl
    | timing server ticket =>
      cases fails with
      | true => exact ticketed.dropped rfl rfl rfl rfl rfl
      | false => exact ticketed.decided rfl rfl
    | answered refusal => exact ticketed
    | stopped => exact ticketed
  arrives := by
    intro pool entry ticketed _
    exact ⟨ticketed.counters, ticketed.ordered, ticketed.each, ticketed.once, ticketed.owned, ticketed.admitted⟩
  stops := by
    intro pool index call others _ ticketed _
    exact ticketed.dropped rfl rfl rfl rfl rfl
  happens := by
    intro pool passed ticketed _ _
    refine ⟨fun key counter found => ?_, ticketed.ordered, fun ticket member => ?_, ticketed.once, ticketed.owned,
      ticketed.admitted⟩
    · have kept := ticketed.counters key counter found
      exact ⟨kept.counted, Nat.le_add_right_of_le kept.born, kept.lives⟩
    · have kept := ticketed.each ticket member
      exact ⟨kept.counted, kept.born, Nat.le_add_right_of_le kept.past, kept.dates⟩

/-- What Redis lets through of the requests under a key. -/
structure SharedBound (cfg : KeyLimits) (limits : SharedLimits) (key : String) : Prop where
  /-- In one life of the counter. -/
  life : ∀ born, (limits.letThrough.countP fun ticket => ticket.key = key && ticket.born = born) ≤ cfg.max key
  /-- In any interval as long as a window. -/
  interval : ∀ start, (limits.letThrough.countP fun ticket =>
    ticket.key = key && start ≤ ticket.time && ticket.time ≤ start + cfg.windowMs key) ≤ 2 * cfg.max key

section Bounds

variable {cfg : KeyLimits} {limits : SharedLimits} {key : String} {calls : List LimitCall}

/-- Numbers of which none comes twice, from one up to a bound, are no more than it. -/
theorem length_le_of_distinct {counts : List Nat} {most : Nat} (distinct : counts.Nodup)
    (within : ∀ count ∈ counts, 1 ≤ count ∧ count ≤ most) : counts.length ≤ most := by
  -- They are a set within the numbers from one to the bound.
  have among : counts.toFinset ⊆ Finset.Icc 1 most := fun count member =>
    Finset.mem_Icc.mpr (within count (List.mem_toFinset.mp member))
  calc counts.length = counts.toFinset.card := (List.toFinset_card_of_nodup distinct).symm
    _ ≤ (Finset.Icc 1 most).card := Finset.card_le_card among
    _ = most := by rw [Nat.card_Icc, Nat.add_sub_cancel]

/-- Of two counts one is behind the other. -/
theorem either_behind (ticketed : Ticketed cfg limits calls) {one other : Ticket} (listed : one ∈ limits.tickets)
    (among : other ∈ limits.tickets) (apart : one ≠ other) : one.Behind cfg other ∨ other.Behind cfg one := by
  -- The tickets stand in the order they were counted, and two places in it are one before the other.
  have symmetric : Std.Symm fun one other : Ticket => one.Behind cfg other ∨ other.Behind cfg one :=
    ⟨fun _ _ => Or.symm⟩
  have either : limits.tickets.Pairwise fun one other => one.Behind cfg other ∨ other.Behind cfg one :=
    ticketed.ordered.imp fun behind => .inl behind
  exact either.forall listed among apart

/-- Of two counts under one key, made in different lives, one was made before the other's life began. -/
theorem apart_of_lives (ticketed : Ticketed cfg limits calls) {one other : Ticket} (listed : one ∈ limits.tickets)
    (among : other ∈ limits.tickets) (same : one.key = other.key) (lives : one.born ≠ other.born) :
    (one.born + cfg.windowMs one.key ≤ other.born ∧ one.time < other.born) ∨
      other.born + cfg.windowMs one.key ≤ one.born ∧ other.time < one.born := by
  -- Behind and not in the same life, it is past the whole of the other's window.
  rcases either_behind ticketed listed among fun equal => lives (congrArg Ticket.born equal) with behind | behind
  · exact .inl ((behind same).resolve_left fun alike => lives alike.1)
  · rw [same]
    exact .inr ((behind same.symm).resolve_left fun alike => lives alike.1.symm)

/-- Of the requests let through, no more than the maximum were counted in one life. -/
theorem length_le_of_life (ticketed : Ticketed cfg limits calls) {some : List Ticket}
    (part : some.Sublist limits.letThrough) (own : ∀ ticket ∈ some, ticket.key = key)
    (life : ∀ one ∈ some, ∀ other ∈ some, one.born = other.born) : some.length ≤ cfg.max key := by
  have listed : ∀ ticket ∈ some, ticket ∈ limits.tickets := fun ticket member =>
    ticketed.owned ticket (List.mem_append_left _ (part.subset member))
  have distinct : (some.map Ticket.count).Nodup := by
    refine ((List.nodup_append.mp ticketed.once).1.sublist part).map_on ?_
    intro one member other among same
    -- Two counts of one life are different, unless they are one count.
    by_contra apart
    have alike := life one member other among
    have keys := (own one member).trans (own other among).symm
    rcases either_behind ticketed (listed one member) (listed other among) apart with behind | behind
    · rcases behind keys with ⟨-, less⟩ | ⟨-, before⟩
      · omega
      · have born := (ticketed.each one (listed one member)).born
        omega
    · rcases behind keys.symm with ⟨-, less⟩ | ⟨-, before⟩
      · omega
      · have born := (ticketed.each other (listed other among)).born
        omega
  rw [← List.length_map Ticket.count]
  refine length_le_of_distinct distinct fun count member => ?_
  obtain ⟨ticket, among, rfl⟩ := List.mem_map.mp member
  have within := ticketed.admitted ticket (part.subset among)
  rw [own ticket among] at within
  exact ⟨(ticketed.each ticket (listed ticket among)).counted, within⟩

/-- What is counted in order is bounded. -/
theorem Ticketed.bounded (ticketed : Ticketed cfg limits calls) (key : String) : SharedBound cfg limits key where
  life born := by
    rw [List.countP_eq_length_filter]
    refine length_le_of_life ticketed List.filter_sublist (fun ticket member => ?_) fun one member other among => ?_
    · simpa using (by simpa using (List.mem_filter.mp member).2 : ticket.key = key ∧ ticket.born = born).1
    · have first : one.key = key ∧ one.born = born := by simpa using (List.mem_filter.mp member).2
      have second : other.key = key ∧ other.born = born := by simpa using (List.mem_filter.mp among).2
      rw [first.2, second.2]
  interval start := by
    rw [List.countP_eq_length_filter]
    set inside := limits.letThrough.filter fun ticket =>
      ticket.key = key && start ≤ ticket.time && ticket.time ≤ start + cfg.windowMs key with filtered
    have part : inside.Sublist limits.letThrough := List.filter_sublist
    have meets : ∀ ticket ∈ inside, ticket.key = key ∧ start ≤ ticket.time ∧
        ticket.time ≤ start + cfg.windowMs key ∧ ticket ∈ limits.tickets ∧ ticket.born ≤ ticket.time := by
      intro ticket member
      obtain ⟨listed, passes⟩ := List.mem_filter.mp member
      have counted := ticketed.owned ticket (List.mem_append_left _ listed)
      simp only [Bool.and_eq_true, decide_eq_true_eq, and_assoc] at passes
      exact ⟨passes.1, passes.2.1, passes.2.2, counted, (ticketed.each ticket counted).born⟩
    -- A life that had begun by the start is the only one of its kind, and so is one that begins within.
    have early : (inside.filter fun ticket => ticket.born ≤ start).length ≤ cfg.max key := by
      refine length_le_of_life ticketed (List.filter_sublist.trans part)
        (fun ticket member => (meets ticket (List.mem_of_mem_filter member)).1) fun one member other among => ?_
      obtain ⟨own, from_, -, listed, -⟩ := meets one (List.mem_of_mem_filter member)
      obtain ⟨own', from', -, listed', -⟩ := meets other (List.mem_of_mem_filter among)
      have begun := of_decide_eq_true (List.mem_filter.mp member).2
      have begun' := of_decide_eq_true (List.mem_filter.mp among).2
      by_contra lives
      have apart := apart_of_lives ticketed listed listed' (own.trans own'.symm) lives
      omega
    -- What began later began after the start, and two such lives would not both fit.
    have late : (inside.filter fun ticket => !decide (ticket.born ≤ start)).length ≤ cfg.max key := by
      refine length_le_of_life ticketed (List.filter_sublist.trans part)
        (fun ticket member => (meets ticket (List.mem_of_mem_filter member)).1) fun one member other among => ?_
      obtain ⟨own, -, until_, listed, born⟩ := meets one (List.mem_of_mem_filter member)
      obtain ⟨own', -, until', listed', born'⟩ := meets other (List.mem_of_mem_filter among)
      have after := (List.mem_filter.mp member).2
      have after' := (List.mem_filter.mp among).2
      simp only [Bool.not_eq_true', decide_eq_false_iff_not] at after after'
      by_contra lives
      have apart := apart_of_lives ticketed listed listed' (own.trans own'.symm) lives
      rw [own] at apart
      omega
    -- So the window meets two lives of the counter at most.
    calc inside.length = (inside.filter fun ticket => ticket.born ≤ start).length +
          (inside.filter fun ticket => !decide (ticket.born ≤ start)).length := List.length_eq_length_filter_add _
      _ ≤ cfg.max key + cfg.max key := Nat.add_le_add early late
      _ = 2 * cfg.max key := (Nat.two_mul _).symm

end Bounds

/--
However many instances share a counter, however their commands interleave, and whichever of them fail or stop:
what is let through by it is bounded in each life of the counter, and in any interval as long as a window.
-/
theorem shared_limiter_bounded (cfg : KeyLimits) (windows : ∀ key, 0 < cfg.windowMs key)
    (events : List (PoolEvent LimitEntry Bool Nat)) (key : String) :
    SharedBound cfg (run (limitSystem cfg).step ⟨{}, []⟩ events).shared key := by
  -- At the start nothing has been counted; no event asks for any care.
  have initial : Ticketed cfg {} [] := ⟨nofun, .nil, nofun, .nil, nofun, nofun⟩
  exact (((ticketed_keeps cfg windows).throughout initial (along_of_forall (fun _ _ => trivial) _ _)).last).bounded key

/-- One guess a second, by whichever instance. -/
def onePerSecond : KeyLimits where
  windowMs _ := 1000
  max _ := 1

/-- Two guesses at two instances, one counted before the other's expiry is set: one is let through. -/
theorem shared_limiter_bounded_twoInstances :
    let events := [.call ⟨0, "login"⟩, .call ⟨1, "login"⟩, .run 0 false, .run 1 false, .run 1 false, .outside 5,
      .run 0 false, .run 0 false]
    SharedBound onePerSecond (run (limitSystem onePerSecond).step ⟨{}, []⟩ events).shared "login" ∧
      (run (limitSystem onePerSecond).step ⟨{}, []⟩ events).shared.letThrough.length = 1 :=
  ⟨shared_limiter_bounded onePerSecond (fun _ => Nat.succ_pos _) _ "login", by decide +kernel⟩

end Freight.Limits
