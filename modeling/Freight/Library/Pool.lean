import Mathlib.Data.List.Perm.Basic
import Freight.Library.Run

/-! Calls in flight over one shared state, interleaved a statement at a time and held back by locks. -/

namespace Freight

/-- A system of calls that each run one statement at a time against a shared state. -/
structure CallSystem (W S N C A E K : Type*) where
  /-- Where a new call begins. -/
  start : N → C
  /-- The statement a call is at, and where the call stands once it has run. -/
  next : W → A → C → S × C
  /-- What a statement does to the shared state. -/
  execute : S → W → W
  /-- Locks a call keeps from one of its statements to the next. -/
  holds : C → List K
  /-- Locks a statement waits for. -/
  needs : S → List K
  /-- What happens to the shared state outside every call. -/
  outside : E → W → W
  /-- Locks an outside event waits for. -/
  outsideNeeds : E → List K
  /-- A call whose process has stopped. -/
  stopped : C

/-- The shared state and every call in flight over it. -/
structure Pool (W C : Type*) where
  /-- What all calls read and write. -/
  shared : W
  /-- Each call, at the statement it has reached. -/
  calls : List C

/-- What can happen next to a pool of calls. -/
inductive PoolEvent (N A E : Type*) where
  /-- A new call arrives. -/
  | call (entry : N)
  /-- The call at an index runs its next statement and receives an answer. -/
  | run (index : Nat) (answer : A)
  /-- The process running the call at an index stops there. -/
  | stop (index : Nat)
  /-- Something outside every call happens. -/
  | outside (event : E)
  deriving DecidableEq

namespace CallSystem

variable {W S N C A E K : Type*} (sys : CallSystem W S N C A E K)

/-- None of the locks is held by any of the calls. -/
def Free (keys : List K) (calls : List C) : Prop :=
  -- A lock is free when it is missing from every call's own list.
  ∀ call ∈ calls, ∀ key ∈ keys, key ∉ sys.holds call

instance [DecidableEq K] (keys : List K) (calls : List C) : Decidable (sys.Free keys calls) :=
  inferInstanceAs (Decidable (∀ call ∈ calls, ∀ key ∈ keys, key ∉ sys.holds call))

variable [DecidableEq K]

/-- One event of an interleaving. An event that has to wait leaves everything as it is. -/
def step (pool : Pool W C) : PoolEvent N A E → Pool W C
  | .call entry => { pool with calls := pool.calls ++ [sys.start entry] }
  | .stop index => { pool with calls := pool.calls.set index sys.stopped }
  | .outside event =>
    if sys.Free (sys.outsideNeeds event) pool.calls then
      { pool with shared := sys.outside event pool.shared }
    else pool
  | .run index answer =>
    match pool.calls[index]? with
    | none => pool
    | some call =>
      let next := sys.next pool.shared answer call
      -- A statement waits for the locks the other calls hold, never for its own call's.
      if sys.Free (sys.needs next.1) (pool.calls.eraseIdx index) then
        { shared := sys.execute next.1 pool.shared, calls := pool.calls.set index next.2 }
      else pool

/-- A step taken by one call: the call, the others, and the answer its statement receives. -/
structure Taken (pool : Pool W C) (index : Nat) (answer : A) (call : C) (others : List C) : Prop where
  /-- The call stands at that index of the pool. -/
  found : pool.calls[index]? = some call
  /-- The rest of the pool. -/
  rest : others = pool.calls.eraseIdx index
  /-- The call and the others make up the whole pool. -/
  all : pool.calls.Perm (call :: others)
  /-- Nothing the statement waits for is held by another call. -/
  free : sys.Free (sys.needs (sys.next pool.shared answer call).1) others

variable {sys}

/-- A step that is taken runs its call's statement. -/
theorem Taken.shared {pool : Pool W C} {index : Nat} {answer : A} {call : C} {others : List C}
    (taken : sys.Taken pool index answer call others) :
    (sys.step pool (.run index answer)).shared =
      sys.execute (sys.next pool.shared answer call).1 pool.shared := by
  -- The locks are free of the other calls, and these are the other calls.
  have free := taken.free
  rw [taken.rest] at free
  simp [step, taken.found, free]

/-- A run event either leaves the pool as it is or runs one statement of one call. -/
theorem step_run_cases (pool : Pool W C) (index : Nat) (answer : A) :
    sys.step pool (.run index answer) = pool ∨
      ∃ call others, sys.Taken pool index answer call others ∧
        (sys.step pool (.run index answer)).shared =
          sys.execute (sys.next pool.shared answer call).1 pool.shared ∧
        (sys.step pool (.run index answer)).calls.Perm
          ((sys.next pool.shared answer call).2 :: others) := by
  -- Only a call that exists and whose statement need not wait changes anything.
  cases found : pool.calls[index]? with
  | none => simp [step, found]
  | some call =>
    obtain ⟨within, same⟩ := List.getElem?_eq_some_iff.mp found
    by_cases free : sys.Free (sys.needs (sys.next pool.shared answer call).1)
        (pool.calls.eraseIdx index)
    · refine .inr ⟨call, pool.calls.eraseIdx index, ⟨found, rfl, ?_, free⟩, ?_, ?_⟩
      · rw [← same]
        exact (List.getElem_cons_eraseIdx_perm within).symm
      · simp [step, found, free]
      · simpa [step, found, free] using List.set_perm_cons_eraseIdx within _
    · simp [step, found, free]

/-- A statement whose locks are free runs. -/
theorem step_free {pool : Pool W C} {index : Nat} {answer : A} {call : C} (found : pool.calls[index]? = some call)
    (free : sys.Free (sys.needs (sys.next pool.shared answer call).1) (pool.calls.eraseIdx index)) :
    sys.step pool (.run index answer) =
      { shared := sys.execute (sys.next pool.shared answer call).1 pool.shared
        calls := pool.calls.set index (sys.next pool.shared answer call).2 } := by
  -- The call is there and its locks are free, which are the two things a step asks.
  simp only [step, found]
  exact if_pos free

/-- One that has to wait leaves everything as it is. -/
theorem step_waits {pool : Pool W C} {index : Nat} {answer : A} {call : C} (found : pool.calls[index]? = some call)
    (held : ¬ sys.Free (sys.needs (sys.next pool.shared answer call).1) (pool.calls.eraseIdx index)) :
    sys.step pool (.run index answer) = pool := by
  -- The call is there and its locks are not free.
  simp only [step, found]
  exact if_neg held

/-- A statement that waits for nothing runs at once. -/
theorem step_lockless {pool : Pool W C} {index : Nat} {answer : A} {call : C}
    (lockless : sys.needs (sys.next pool.shared answer call).1 = []) (found : pool.calls[index]? = some call) :
    sys.step pool (.run index answer) =
      { shared := sys.execute (sys.next pool.shared answer call).1 pool.shared
        calls := pool.calls.set index (sys.next pool.shared answer call).2 } := by
  refine step_free found ?_
  -- There is no lock it could be waiting for.
  intro _ _ key needed
  rw [lockless] at needed
  cases needed

/-- Stopping either finds no call or puts the stopped call in one call's place. -/
theorem step_stop_cases (pool : Pool W C) (index : Nat) :
    sys.step pool (.stop index) = pool ∨
      ∃ call others, pool.calls[index]? = some call ∧ pool.calls.Perm (call :: others) ∧
        (sys.step pool (.stop index)).shared = pool.shared ∧
        (sys.step pool (.stop index)).calls.Perm (sys.stopped :: others) := by
  -- Setting a position past the end changes nothing.
  cases found : pool.calls[index]? with
  | none => exact .inl (by simp [step, List.set_eq_of_length_le (List.getElem?_eq_none_iff.mp found)])
  | some call =>
    obtain ⟨within, same⟩ := List.getElem?_eq_some_iff.mp found
    refine .inr ⟨call, pool.calls.eraseIdx index, rfl, ?_, rfl, ?_⟩
    · rw [← same]
      exact (List.getElem_cons_eraseIdx_perm within).symm
    · exact List.set_perm_cons_eraseIdx within _

/--
What has to be shown of one call to know what every interleaving keeps.

The invariant speaks of the shared state and of all calls together, in whatever order they stand.
-/
structure Keeps (sys : CallSystem W S N C A E K) (inv : W → List C → Prop)
    (admissible : Pool W C → PoolEvent N A E → Prop) : Prop where
  /-- The order of the calls does not matter. -/
  perm : ∀ {shared calls calls'}, calls.Perm calls' → inv shared calls → inv shared calls'
  /-- A call that runs its next statement keeps the invariant. -/
  moves : ∀ {pool index answer call others}, sys.Taken pool index answer call others →
    inv pool.shared (call :: others) → admissible pool (.run index answer) →
    inv (sys.execute (sys.next pool.shared answer call).1 pool.shared)
      ((sys.next pool.shared answer call).2 :: others)
  /-- A call that arrives keeps the invariant. -/
  arrives : ∀ {pool entry}, inv pool.shared pool.calls → admissible pool (.call entry) →
    inv pool.shared (sys.start entry :: pool.calls)
  /-- A call that stops keeps the invariant. -/
  stops : ∀ {pool index call others}, pool.calls[index]? = some call →
    inv pool.shared (call :: others) → admissible pool (.stop index) →
    inv pool.shared (sys.stopped :: others)
  /-- What happens outside the calls keeps the invariant. -/
  happens : ∀ {pool event}, inv pool.shared pool.calls → admissible pool (.outside event) →
    sys.Free (sys.outsideNeeds event) pool.calls → inv (sys.outside event pool.shared) pool.calls

namespace Keeps

variable {inv : W → List C → Prop} {admissible : Pool W C → PoolEvent N A E → Prop}

/-- Every admissible event of the interleaving keeps the invariant. -/
theorem step (keeps : Keeps sys inv admissible) (pool : Pool W C) (event : PoolEvent N A E)
    (holds : inv pool.shared pool.calls) (admitted : admissible pool event) :
    inv (sys.step pool event).shared (sys.step pool event).calls := by
  cases event with
  | call entry => exact keeps.perm (List.perm_append_singleton _ _).symm (keeps.arrives holds admitted)
  | stop index =>
    -- What stops or runs is brought to the front, and the invariant does not mind the order.
    rcases @step_stop_cases _ _ _ _ _ _ _ sys _ pool index with same | ⟨call, others, found, all, shared, new⟩
    · rw [same]
      exact holds
    · rw [shared]
      exact keeps.perm new.symm (keeps.stops found (keeps.perm all holds) admitted)
  | outside event =>
    by_cases free : sys.Free (sys.outsideNeeds event) pool.calls
    · simpa only [CallSystem.step, if_pos free] using keeps.happens holds admitted free
    · simpa only [CallSystem.step, if_neg free] using holds
  | run index answer =>
    rcases @step_run_cases _ _ _ _ _ _ _ sys _ pool index answer with same | ⟨call, others, taken, shared, new⟩
    · rw [same]
      exact holds
    · rw [shared]
      exact keeps.perm new.symm (keeps.moves taken (keeps.perm taken.all holds) admitted)

/-- The invariant holds throughout every admissible run that starts in it. -/
theorem throughout (keeps : Keeps sys inv admissible) {pool : Pool W C}
    {events : List (PoolEvent N A E)} (initial : inv pool.shared pool.calls)
    (along : Along sys.step admissible pool events) :
    Throughout sys.step (fun pool => inv pool.shared pool.calls) pool events :=
  Along.throughout (fun pool event holds admitted => keeps.step pool event holds admitted) initial along

end Keeps

section Hosting

variable {S' N' C' A' E' : Type*} {outer : CallSystem W S' N' C' A' E' K} {inside : C' → Option C}

/-- A system runs inside a larger one: its calls are some of the larger one's, and take the same steps there. -/
structure Hosts (outer : CallSystem W S' N' C' A' E' K) (sys : CallSystem W S N C A E K)
    (inside : C' → Option C) : Prop where
  /-- A call of the system that arrives begins as one. -/
  starts : ∀ entry call, inside (outer.start entry) = some call → ∃ own, sys.start own = call
  stops : inside outer.stopped = some sys.stopped
  /-- Its statements do the same to the shared state, and wait for no fewer locks. -/
  moves : ∀ shared answer call own, inside call = some own → ∃ answer',
    inside (outer.next shared answer call).2 = some (sys.next shared answer' own).2 ∧
      outer.execute (outer.next shared answer call).1 shared =
        sys.execute (sys.next shared answer' own).1 shared ∧
      sys.needs (sys.next shared answer' own).1 ⊆ outer.needs (outer.next shared answer call).1
  /-- Every other call stays one. -/
  apart : ∀ shared answer call, inside call = none → inside (outer.next shared answer call).2 = none
  holds : ∀ call own, inside call = some own → sys.holds own ⊆ outer.holds call
  happens : ∀ event shared, ∃ own, outer.outside event shared = sys.outside own shared ∧
    sys.outsideNeeds own ⊆ outer.outsideNeeds event

omit [DecidableEq K] in
/-- What is free in the larger system is free among the calls of the smaller one. -/
theorem Hosts.free (hosts : Hosts outer sys inside) {keys keys' : List K} (fewer : keys ⊆ keys')
    {calls : List C'} (free : outer.Free keys' calls) : sys.Free keys (calls.filterMap inside) := by
  -- A call of the smaller system holds what its host holds.
  intro own member key needed held
  obtain ⟨call, listed, within⟩ := List.mem_filterMap.mp member
  exact free call listed key (fewer needed) (hosts.holds call own within held)

omit [DecidableEq K] in
/-- What a system keeps it keeps inside a larger one whose other calls keep it too. -/
theorem Keeps.hosted [Nonempty N] {inv : W → List C → Prop} (keeps : sys.Keeps inv fun _ _ => True)
    (hosts : Hosts outer sys inside)
    (alongside : ∀ shared answer call own, inside call = none → inv shared own →
      inv (outer.execute (outer.next shared answer call).1 shared) own) :
    outer.Keeps (fun shared calls => inv shared (calls.filterMap inside)) fun _ _ => True where
  perm same holds := keeps.perm (same.filterMap inside) holds
  moves := by
    intro pool index answer call others taken holds _
    cases within : inside call with
    | none =>
      rw [List.filterMap_cons_none within] at holds
      rw [List.filterMap_cons_none (hosts.apart _ _ _ within)]
      exact alongside _ _ _ _ within holds
    | some own =>
      rw [List.filterMap_cons_some within] at holds
      obtain ⟨answer', next, shared, fewer⟩ := hosts.moves pool.shared answer call own within
      rw [List.filterMap_cons_some next, shared]
      -- The call is put at the head of the smaller pool.
      have inner : sys.Taken ⟨pool.shared, own :: others.filterMap inside⟩ 0 answer' own
          (others.filterMap inside) := ⟨rfl, rfl, .refl _, hosts.free fewer taken.free⟩
      exact keeps.moves inner holds trivial
  arrives := by
    intro pool entry holds _
    cases within : inside (outer.start entry) with
    | none => rwa [List.filterMap_cons_none within]
    | some own =>
      rw [List.filterMap_cons_some within]
      obtain ⟨entry', rfl⟩ := hosts.starts entry own within
      exact @Keeps.arrives _ _ _ _ _ _ _ _ _ _ keeps ⟨pool.shared, _⟩ entry' holds trivial
  stops := by
    intro pool index call others _ holds _
    rw [List.filterMap_cons_some hosts.stops]
    cases within : inside call with
    | none =>
      rw [List.filterMap_cons_none within] at holds
      -- Some call of the smaller system arrives and stops at once.
      obtain ⟨entry⟩ := ‹Nonempty N›
      have arrived := @Keeps.arrives _ _ _ _ _ _ _ _ _ _ keeps ⟨pool.shared, _⟩ entry holds trivial
      exact @Keeps.stops _ _ _ _ _ _ _ _ _ _ keeps ⟨pool.shared, sys.start entry :: others.filterMap inside⟩ 0
        _ _ rfl arrived trivial
    | some own =>
      rw [List.filterMap_cons_some within] at holds
      exact @Keeps.stops _ _ _ _ _ _ _ _ _ _ keeps ⟨pool.shared, own :: others.filterMap inside⟩ 0 own
        (others.filterMap inside) rfl holds trivial
  happens := by
    intro pool event holds _ free
    obtain ⟨own, same, fewer⟩ := hosts.happens event pool.shared
    rw [same]
    exact @Keeps.happens _ _ _ _ _ _ _ _ _ _ keeps ⟨pool.shared, pool.calls.filterMap inside⟩ own holds trivial
      (hosts.free fewer free)

end Hosting

/-- No two calls hold the same lock. -/
def Exclusive (sys : CallSystem W S N C A E K) (calls : List C) : Prop :=
  calls.Pairwise fun one other => ∀ key ∈ sys.holds one, key ∉ sys.holds other

omit [DecidableEq K] in
/-- It does not matter in which order the calls stand. -/
theorem Exclusive.perm {calls calls' : List C} (same : calls.Perm calls')
    (exclusive : sys.Exclusive calls) : sys.Exclusive calls' :=
  (same.pairwise_iff fun apart key held had => apart key had held).mp exclusive

omit [DecidableEq K] in
/-- What a step holds or waits for is held by no other call. -/
theorem Exclusive.apart {pool : Pool W C} {index : Nat} {answer : A} {call : C} {others : List C}
    (exclusive : sys.Exclusive (call :: others)) (taken : sys.Taken pool index answer call others)
    {key : K} (had : key ∈ sys.holds call ∨ key ∈ sys.needs (sys.next pool.shared answer call).1)
    {other : C} (member : other ∈ others) : key ∉ sys.holds other :=
  had.elim ((List.pairwise_cons.mp exclusive).1 other member key) (taken.free other member key)

/-- A system whose calls come to hold a lock only by waiting for it. -/
structure Disciplined (sys : CallSystem W S N C A E K) : Prop where
  /-- A new call holds nothing. -/
  starts : ∀ entry, sys.holds (sys.start entry) = []
  /-- Nor does a stopped one. -/
  stops : sys.holds sys.stopped = []
  /-- What is held after a statement was held before it, or the statement waited for it. -/
  waits : ∀ shared answer call, ∀ key ∈ sys.holds (sys.next shared answer call).2,
    key ∈ sys.holds call ∨ key ∈ sys.needs (sys.next shared answer call).1

omit [DecidableEq K] in
/-- In a disciplined system no event whatever makes two calls hold one lock. -/
theorem Disciplined.exclusive_keeps (disciplined : Disciplined sys) :
    sys.Keeps (fun _ calls => sys.Exclusive calls) fun _ _ => True where
  perm same exclusive := exclusive.perm same
  moves := by
    intro pool index answer call others taken exclusive _
    refine List.pairwise_cons.mpr ⟨fun other member key held => ?_,
      (List.pairwise_cons.mp exclusive).2⟩
    -- A lock that the call comes to hold was free when it was taken.
    exact exclusive.apart taken (disciplined.waits _ _ _ key held) member
  arrives := by
    intro pool entry exclusive _
    refine List.pairwise_cons.mpr ⟨fun other _ key held => ?_, exclusive⟩
    simp [disciplined.starts] at held
  stops := by
    intro pool index call others _ exclusive _
    refine List.pairwise_cons.mpr ⟨fun other _ key held => ?_, (List.pairwise_cons.mp exclusive).2⟩
    simp [disciplined.stops] at held
  happens := fun exclusive _ _ => exclusive

end CallSystem

end Freight
