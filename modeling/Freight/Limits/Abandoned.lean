import Freight.Library.Reserve
import Freight.Limits.Shared

/-! Counters that never expire: when one is left behind, and what becomes of the requests under its key. -/

namespace Freight.Limits

/-- A request that is about to set the expiry of a key. -/
def LimitCall.sets : LimitCall → Option String
  | .expiring _ ticket => some ticket.key
  | _ => none

/-- Every counter without an expiry has a request that is about to set one. -/
def Tended (limits : SharedLimits) (calls : List LimitCall) : Prop :=
  ∀ key counter, limits.counters key = some counter → counter.expiresAt = none → ∃ call ∈ calls, key ∈ call.sets

/-- The condition on an event: it neither stops nor fails a request that is about to set an expiry. -/
def Careful (pool : Pool SharedLimits LimitCall) : PoolEvent LimitEntry Bool Nat → Prop
  | .stop index => ∀ call ∈ pool.calls[index]?, call.sets = none
  | .run index fails => fails = true → ∀ call ∈ pool.calls[index]?, call.sets = none
  | _ => True

/-- What a request that is about to set an expiry relies on: there is none. -/
def LimitCall.Unset (limits : SharedLimits) (call : LimitCall) : Prop :=
  ∀ key ∈ call.sets, ∃ counter, limits.counters key = some counter ∧ counter.expiresAt = none

/-- What careful events keep. -/
structure Expiring (limits : SharedLimits) (calls : List LimitCall) : Prop where
  tended : Tended limits calls
  counted : ∀ key counter, limits.counters key = some counter → 1 ≤ counter.count
  /-- One request sets the expiry of each counter. -/
  reserved : Reserved LimitCall.sets LimitCall.Unset limits calls

section Steps

variable {cfg : KeyLimits} {limits : SharedLimits} {key : String} {call next : LimitCall} {others : List LimitCall}

/-- A counter without an expiry has not gone. -/
theorem counter_of_unset {counter : Counter} (there : limits.counters key = some counter)
    (unset : counter.expiresAt = none) : limits.counter key = some counter :=
  counter_eq_some.mpr ⟨there, fun _ expires => by rw [unset] at expires; cases expires⟩

/-- A request that sets no expiry leaves the counters tended. -/
theorem Tended.moves (tended : Tended limits (call :: others)) (idle : call.sets = none) :
    Tended limits (next :: others) := by
  -- Whoever is to set the expiry is another request, and still among them.
  intro key counter there unset
  obtain ⟨setter, member, sets⟩ := tended key counter there unset
  rcases List.mem_cons.mp member with rfl | other
  · rw [idle] at sets
    cases sets
  · exact ⟨setter, List.mem_cons_of_mem _ other, sets⟩

/-- A step that leaves the counters alone, of a request that sets no expiry. -/
theorem Expiring.quiet {later : SharedLimits} (expiring : Expiring limits (call :: others)) (idle : call.sets = none)
    (rest : next.sets = none) (same : later.counters = limits.counters) : Expiring later (next :: others) := by
  have unset : next.Unset later := by
    intro key sets
    rw [rest] at sets
    cases sets
  -- Its own promise is empty, and those of the others speak of counters only.
  refine ⟨?_, ?_, expiring.reserved.lets_go unset rest fun _ _ finds => ?_⟩
  · unfold Tended
    rw [same]
    exact expiring.tended.moves idle
  · rw [same]
    exact expiring.counted
  · unfold LimitCall.Unset
    rw [same]
    exact finds

/-- What an `INCR` leaves has an expiry if there was one, and is the first to be counted when it has gone. -/
theorem incremented_expiry (counted : ∀ key counter, limits.counters key = some counter → 1 ≤ counter.count)
    (key : String) : 1 ≤ (limits.incremented key).count ∧
      ((limits.incremented key).count = 1 ↔ limits.counter key = none) ∧
      ∀ counter, limits.counter key = some counter →
        (limits.incremented key).expiresAt = counter.expiresAt := by
  -- A counter that is there counts on; one that is not, or has run out, begins at one.
  rcases incremented_cases limits key with ⟨counter, found, further⟩ | ⟨gone, anew⟩
  · have before := counted key counter (counter_eq_some.mp found).1
    rw [further, found]
    refine ⟨Nat.le_add_left _ _, iff_of_false (by simp only; omega) nofun, ?_⟩
    rintro _ ⟨⟩
    rfl
  · rw [anew, gone]
    exact ⟨Nat.le_refl _, iff_of_true rfl rfl, nofun⟩

/-- An `INCR` leaves the counters tended: the request that makes one is to set its expiry. -/
theorem Expiring.incr {server : Nat} (expiring : Expiring limits (.incrementing server key :: others)) :
    Expiring ((LimitStatement.incr key).execute cfg limits)
      ((if (limits.ticket key).count = 1 then .expiring server (limits.ticket key)
        else .timing server (limits.ticket key)) :: others) := by
  obtain ⟨least, first, expiry⟩ := incremented_expiry expiring.counted key
  have first : (limits.ticket key).count = 1 ↔ limits.counter key = none := first
  have unset : ∀ other : LimitCall, other.Unset limits →
      other.Unset ((LimitStatement.incr key).execute cfg limits) := by
    intro other finds key' sets
    obtain ⟨counter, there, none⟩ := finds key' sets
    by_cases own : key' = key
    · subst own
      exact ⟨_, if_pos rfl, (expiry counter (counter_of_unset there none)).trans none⟩
    · exact ⟨counter, (if_neg own).trans there, none⟩
  have counted : ∀ key' counter, ((LimitStatement.incr key).execute cfg limits).counters key' = some counter →
      1 ≤ counter.count := by
    intro key' counter there
    by_cases own : key' = key
    · subst own
      cases (if_pos rfl).symm.trans there
      exact least
    · exact expiring.counted key' counter ((if_neg own).symm.trans there)
  -- The counter is made anew, or was there and counts one more.
  by_cases gone : limits.counter key = none
  · rw [if_pos (first.mpr gone)]
    refine ⟨?_, counted, expiring.reserved.moves ?_ (fun other _ finds => unset other finds) ?_⟩
    -- This one's expiry is set by the request itself, and the others' as before.
    · intro key' counter there none
      by_cases own : key' = key
      · exact ⟨_, List.mem_cons_self, by rw [own]; rfl⟩
      · obtain ⟨setter, member, sets⟩ :=
          (expiring.tended.moves rfl : Tended limits (.stopped :: others)) key' counter
            ((if_neg own).symm.trans there) none
        rcases List.mem_cons.mp member with rfl | other
        · cases sets
        · exact ⟨setter, List.mem_cons_of_mem _ other, sets⟩
    · rintro _ ⟨⟩
      refine ⟨_, if_pos rfl, ?_⟩
      rcases incremented_cases limits key with ⟨counter, found, -⟩ | ⟨-, anew⟩
      · rw [gone] at found
        cases found
      · rw [anew]
    · -- Nobody is about to set the expiry of a counter that has gone.
      rintro _ ⟨⟩
      refine .inr fun other member sets => ?_
      obtain ⟨counter, there, none⟩ := expiring.reserved.tail.finds other member _ sets
      have gone : limits.counter (limits.ticket key).key = Option.none := gone
      cases gone.symm.trans (counter_of_unset there none)
  · rw [if_neg fun one => gone (first.mp one)]
    refine ⟨?_, counted, expiring.reserved.lets_go nofun rfl fun other _ finds => unset other finds⟩
    intro key' counter there none
    obtain ⟨alive, found⟩ := Option.ne_none_iff_exists'.mp gone
    obtain ⟨before, was, unexpired⟩ : ∃ before, limits.counters key' = some before ∧ before.expiresAt = Option.none := by
      by_cases own : key' = key
      · subst own
        cases (if_pos rfl).symm.trans there
        exact ⟨alive, (counter_eq_some.mp found).1, (expiry alive found).symm.trans none⟩
      · exact ⟨counter, (if_neg own).symm.trans there, none⟩
    exact (expiring.tended.moves rfl) key' before was unexpired

/-- A request that sets the expiry of its key has done its part. -/
theorem Expiring.pExpire {server : Nat} {ticket : Ticket}
    (expiring : Expiring limits (.expiring server ticket :: others)) :
    Expiring ((LimitStatement.pExpire ticket.key).execute cfg limits) (.timing server ticket :: others) := by
  obtain ⟨counter, there, unset⟩ := expiring.reserved.first ticket.key rfl
  have alive := counter_of_unset there unset
  simp only [LimitStatement.execute, alive]
  -- Its own key now has an expiry, and no other request was to set that one.
  refine ⟨?_, ?_, expiring.reserved.lets_go (fun _ sets => by cases sets) rfl fun other apart finds key sets => ?_⟩
  · intro key other found none
    by_cases own : key = ticket.key
    · cases (if_pos own).symm.trans found
      cases none
    · obtain ⟨setter, member, sets⟩ := expiring.tended key other ((if_neg own).symm.trans found) none
      rcases List.mem_cons.mp member with rfl | among
      · exact absurd (Option.some.inj sets).symm own
      · exact ⟨setter, List.mem_cons_of_mem _ among, sets⟩
  · intro key other found
    by_cases own : key = ticket.key
    · cases (if_pos own).symm.trans found
      exact expiring.counted ticket.key counter there
    · exact expiring.counted key other ((if_neg own).symm.trans found)
  · obtain ⟨mine, found, none⟩ := finds key sets
    have other : key ≠ ticket.key := fun same => apart ticket.key rfl (same ▸ sets)
    exact ⟨mine, (if_neg other).trans found, none⟩

end Steps

/-- Careful events keep every counter tended. -/
theorem expiring_keeps (cfg : KeyLimits) : (limitSystem cfg).Keeps Expiring Careful where
  perm same expiring := by
    refine ⟨fun key counter there unset => ?_, expiring.counted, expiring.reserved.perm same⟩
    obtain ⟨setter, member, sets⟩ := expiring.tended key counter there unset
    exact ⟨setter, same.mem_iff.mp member, sets⟩
  moves := by
    intro pool index fails call others taken expiring careful
    show Expiring ((call.next cfg pool.shared fails).1.execute cfg pool.shared)
      ((call.next cfg pool.shared fails).2 :: others)
    cases call with
    -- Where the INCR fails, nothing has been counted.
    | incrementing server key =>
      cases fails with
      | true => exact expiring.quiet rfl rfl rfl
      | false => exact expiring.incr
    -- That the PEXPIRE works is what the condition asks for.
    | expiring server ticket =>
      cases fails with
      | true => cases careful rfl _ taken.found
      | false => exact expiring.pExpire
    -- To ask for the time left writes nothing.
    | timing server ticket =>
      cases fails with
      | true => exact expiring.quiet rfl rfl rfl
      | false =>
        refine expiring.quiet rfl rfl ?_
        show (ite _ _ _ : SharedLimits).counters = _
        split <;> rfl
    | answered refusal => exact expiring
    | stopped => exact expiring
  arrives := by
    intro pool entry expiring _
    refine ⟨fun key counter there unset => ?_, expiring.counted, expiring.reserved.cons_idle nofun rfl⟩
    obtain ⟨setter, member, sets⟩ := expiring.tended key counter there unset
    exact ⟨setter, List.mem_cons_of_mem _ member, sets⟩
  stops := by
    intro pool index call others found expiring careful
    exact expiring.quiet (careful call found) rfl rfl
  happens := by
    intro pool passed expiring _ _
    exact ⟨expiring.tended, expiring.counted, expiring.reserved.finds, expiring.reserved.apart⟩

/-- A request that goes without setting the expiry leaves the counter untended. -/
theorem untended_of_gone {limits : SharedLimits} {call next : LimitCall} {others calls : List LimitCall}
    (expiring : Expiring limits (call :: others)) (after : calls.Perm (next :: others)) (rest : next.sets = none)
    (tended : Tended limits calls) : call.sets = none := by
  by_contra sets
  obtain ⟨key, mine⟩ := Option.ne_none_iff_exists'.mp sets
  obtain ⟨counter, there, unset⟩ := expiring.reserved.first key mine
  obtain ⟨setter, member, also⟩ := tended key counter there unset
  -- The only other request to do it would be a second one.
  rcases List.mem_cons.mp (after.mem_iff.mp member) with rfl | other
  · rw [rest] at also
    cases also
  · exact expiring.reserved.alone mine setter other also

/-- A request that may not set an expiry any more has nothing left to set, if the counters are still tended. -/
theorem untended_step (cfg : KeyLimits) (pool : Pool SharedLimits LimitCall)
    (event : PoolEvent LimitEntry Bool Nat) (expiring : Expiring pool.shared pool.calls)
    (tended : Tended ((limitSystem cfg).step pool event).shared ((limitSystem cfg).step pool event).calls) :
    Careful pool event := by
  -- The request that is stopped or fails is brought to the front.
  have front : ∀ {index call}, pool.calls[index]? = some call →
      Expiring pool.shared (call :: pool.calls.eraseIdx index) ∧
        ∀ next : LimitCall, (pool.calls.set index next).Perm (next :: pool.calls.eraseIdx index) := by
    intro index call found
    obtain ⟨within, same⟩ := List.getElem?_eq_some_iff.mp found
    have all : pool.calls.Perm (call :: pool.calls.eraseIdx index) := by
      rw [← same]
      exact (List.getElem_cons_eraseIdx_perm within).symm
    exact ⟨(expiring_keeps cfg).perm all expiring, fun next => List.set_perm_cons_eraseIdx within next⟩
  cases event with
  | call entry => trivial
  | outside passed => trivial
  | stop index =>
    intro call found
    obtain ⟨mine, after⟩ := front found
    exact untended_of_gone mine (after .stopped) rfl tended
  | run index fails =>
    intro failed call found
    obtain ⟨mine, after⟩ := front found
    subst failed
    rw [(limitSystem cfg).step_lockless rfl found] at tended
    cases call with
    | expiring server ticket => exact untended_of_gone mine (after _) rfl tended
    | incrementing server key => rfl
    | timing server ticket => rfl
    | answered refusal => rfl
    | stopped => rfl

/-- A counter is never left without an expiry exactly when no request fails or stops between making it and setting one. -/
theorem tended_iff (cfg : KeyLimits) (events : List (PoolEvent LimitEntry Bool Nat)) :
    Throughout (limitSystem cfg).step (fun pool => Tended pool.shared pool.calls) ⟨{}, []⟩ events ↔
      Along (limitSystem cfg).step Careful ⟨{}, []⟩ events := by
  -- With no counter yet made, none is untended.
  have initial : Expiring {} [] := ⟨nofun, nofun, .nil⟩
  exact @throughout_iff_of_invariant (Pool SharedLimits LimitCall) _ (limitSystem cfg).step
    (fun pool => Expiring pool.shared pool.calls) _ _ (fun _ expiring => expiring.tended) (untended_step cfg)
    (fun pool event => (expiring_keeps cfg).step pool event) ⟨{}, []⟩ events initial

/-- A counter is left behind: it has no expiry, and no request is about to set one. -/
structure LeftBehind (key : String) (born : Nat) (limits : SharedLimits) (calls : List LimitCall) : Prop where
  there : ∃ counter, limits.counters key = some counter ∧ counter.expiresAt = none ∧ counter.born = born ∧
    1 ≤ counter.count
  unset : ∀ call ∈ calls, key ∉ call.sets

section

variable {cfg : KeyLimits} {limits : SharedLimits} {key : String} {born : Nat} {call next : LimitCall}
  {others : List LimitCall}

/-- A step that leaves the counter alone, of a request that goes on to set no expiry of it. -/
theorem LeftBehind.apart {later : SharedLimits} (left : LeftBehind key born limits (call :: others))
    (same : later.counters key = limits.counters key) (rest : key ∉ next.sets) :
    LeftBehind key born later (next :: others) where
  -- The counter is where it was.
  there := by
    rw [same]
    exact left.there
  unset := List.forall_mem_cons.mpr ⟨rest, (List.forall_mem_cons.mp left.unset).2⟩

/-- An `INCR` only counts it further, and is never the first to. -/
theorem LeftBehind.incr {server : Nat} {other : String}
    (left : LeftBehind key born limits (.incrementing server other :: others)) :
    LeftBehind key born ((LimitStatement.incr other).execute cfg limits)
      ((if (limits.ticket other).count = 1 then .expiring server (limits.ticket other)
        else .timing server (limits.ticket other)) :: others) := by
  obtain ⟨counter, there, unexpired, begun, counted⟩ := left.there
  have waiting := (List.forall_mem_cons.mp left.unset).2
  -- Under another key the counter is not touched; under its own it is past one already.
  by_cases own : key = other
  · subst own
    have further : limits.incremented key = { counter with count := counter.count + 1 } := by
      unfold SharedLimits.incremented
      rw [counter_of_unset there unexpired]
    have later : (limits.ticket key).count ≠ 1 := by
      show (limits.incremented key).count ≠ 1
      rw [further]
      show counter.count + 1 ≠ 1
      omega
    rw [if_neg later]
    refine ⟨⟨_, if_pos rfl, ?_⟩, List.forall_mem_cons.mpr ⟨nofun, waiting⟩⟩
    rw [further]
    exact ⟨unexpired, begun, Nat.le_add_left _ _⟩
  · refine left.apart (if_neg own) ?_
    split
    · intro sets
      cases sets
      exact own rfl
    · exact nofun

/-- A `PEXPIRE` is sent for another key. -/
theorem LeftBehind.pExpire {server : Nat} {ticket : Ticket}
    (left : LeftBehind key born limits (.expiring server ticket :: others)) :
    LeftBehind key born ((LimitStatement.pExpire ticket.key).execute cfg limits) (.timing server ticket :: others) := by
  -- Only the request that counted first sends one, and for this counter it has been and gone.
  have other : key ≠ ticket.key := fun same =>
    left.unset _ List.mem_cons_self (congrArg some same.symm)
  refine left.apart ?_ nofun
  simp only [LimitStatement.execute]
  split
  · exact if_neg other
  · rfl

end

/-- Nothing that happens makes it expire again. -/
theorem leftBehind_keeps (cfg : KeyLimits) (key : String) (born : Nat) :
    (limitSystem cfg).Keeps (LeftBehind key born) fun _ _ => True where
  perm same left := ⟨left.there, fun call member => left.unset call (same.mem_iff.mpr member)⟩
  moves := by
    intro pool index fails call others taken left _
    show LeftBehind key born ((call.next cfg pool.shared fails).1.execute cfg pool.shared)
      ((call.next cfg pool.shared fails).2 :: others)
    cases call with
    -- An INCR keeps the expiry that the counter has, and it has none.
    | incrementing server other =>
      cases fails with
      | true => exact left.apart rfl nofun
      | false => exact left.incr
    -- Only the first request of a counter sets its expiry, and that one has gone.
    | expiring server ticket =>
      cases fails with
      | true => exact left.apart rfl nofun
      | false => exact left.pExpire
    | timing server ticket =>
      cases fails with
      | true => exact left.apart rfl nofun
      | false =>
        refine left.apart ?_ nofun
        show (ite _ _ _ : SharedLimits).counters key = _
        split <;> rfl
    | answered refusal => exact left
    | stopped => exact left
  arrives := by
    intro pool entry left _
    exact ⟨left.there, List.forall_mem_cons.mpr ⟨nofun, left.unset⟩⟩
  stops := by
    intro pool index call others _ left _
    exact left.apart rfl nofun
  happens := by
    intro pool passed left _ _
    exact ⟨left.there, left.unset⟩

/--
A counter left without an expiry shuts its key out: from its first count on Redis lets through no more requests
than one window allows, however long the run goes on.
-/
theorem left_behind_refuses (cfg : KeyLimits) (windows : ∀ key, 0 < cfg.windowMs key)
    (before after : List (PoolEvent LimitEntry Bool Nat)) (key : String) (born : Nat)
    (left : LeftBehind key born (run (limitSystem cfg).step ⟨{}, []⟩ before).shared
      (run (limitSystem cfg).step ⟨{}, []⟩ before).calls) :
    ((run (limitSystem cfg).step ⟨{}, []⟩ (before ++ after)).shared.letThrough.countP fun ticket =>
      ticket.key = key && born ≤ ticket.time) ≤ cfg.max key := by
  have initial : Ticketed cfg {} [] := ⟨nofun, .nil, nofun, .nil, nofun, nofun⟩
  have ticketed := (@CallSystem.Keeps.throughout _ _ _ _ _ _ _ _ _ _ _ (ticketed_keeps cfg windows) ⟨{}, []⟩
    (before ++ after) initial (along_of_forall (fun _ _ => trivial) _ _)).last
  have still := ((leftBehind_keeps cfg key born).throughout left (along_of_forall (fun _ _ => trivial) _ after)).last
  rw [← run_append] at still
  set final := run (limitSystem cfg).step ⟨{}, []⟩ (before ++ after)
  obtain ⟨counter, there, -, begun, -⟩ := still.there
  -- Whatever was counted since the counter was made was counted in its life.
  have life : ∀ ticket ∈ final.shared.letThrough, ticket.key = key → born ≤ ticket.time → ticket.born = born := by
    intro ticket member own since
    have kept := ticketed.each ticket (ticketed.owned ticket (List.mem_append_left _ member))
    obtain ⟨other, found, dates⟩ := kept.dates
    subst own
    cases there.symm.trans found
    rcases dates with ⟨same, -⟩ | ⟨-, older⟩
    · rw [same, begun]
    · omega
  calc (final.shared.letThrough.countP fun ticket => ticket.key = key && born ≤ ticket.time)
      ≤ final.shared.letThrough.countP fun ticket => ticket.key = key && ticket.born = born := by
        refine List.countP_mono_left fun ticket member passes => ?_
        simp only [Bool.and_eq_true, decide_eq_true_eq] at passes ⊢
        exact ⟨passes.1, life ticket member passes.1 passes.2⟩
    _ ≤ cfg.max key := (ticketed.bounded key).life born

/-- The process stops between making the counter and setting its expiry: the next guess is refused, years later too. -/
theorem left_behind_refuses_login :
    let before := [.call ⟨0, "login"⟩, .run 0 false, .stop 0]
    let after := [.outside 100000000, .call ⟨1, "login"⟩, .run 1 false, .run 1 false]
    let final := run (limitSystem onePerSecond).step ⟨{}, []⟩ (before ++ after)
    (final.shared.letThrough.countP fun ticket => ticket.key = "login" && 0 ≤ ticket.time) ≤ 1 ∧
      final.calls = [.stopped, .answered (some { retryAfter := 1 })] := by
  have left : LeftBehind "login" 0
      (run (limitSystem onePerSecond).step ⟨{}, []⟩ [.call ⟨0, "login"⟩, .run 0 false, .stop 0]).shared
      (run (limitSystem onePerSecond).step ⟨{}, []⟩ [.call ⟨0, "login"⟩, .run 0 false, .stop 0]).calls := by
    refine ⟨⟨{ count := 1, born := 0 }, by decide, rfl, rfl, Nat.le_refl 1⟩, ?_⟩
    intro call member
    have stopped : call = .stopped := List.mem_singleton.mp member
    rw [stopped]
    exact nofun
  exact ⟨left_behind_refuses onePerSecond (fun _ => Nat.succ_pos _) _ _ "login" 0 left, by decide +kernel⟩

end Freight.Limits
