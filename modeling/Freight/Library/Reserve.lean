import Mathlib.Data.List.Perm.Basic

/-!
Checks that are acted on later. What a party has found stays so while no other party reserves the same,
although nothing locks it.
-/

namespace Freight

variable {W C R : Type*}

/-- Each party still finds what it relies on, and no two parties reserve the same. -/
structure Reserved (reserves : C → Option R) (finds : W → C → Prop) (shared : W) (calls : List C) : Prop where
  finds : ∀ call ∈ calls, finds shared call
  apart : calls.Pairwise fun one other => ∀ resource ∈ reserves one, resource ∉ reserves other

namespace Reserved

variable {reserves : C → Option R} {finds : W → C → Prop} {shared shared' : W} {call next : C}
  {calls calls' others : List C}

/-- Nobody reserves anything where there is nobody. -/
theorem nil : Reserved reserves finds shared [] := ⟨fun _ member => absurd member List.not_mem_nil, .nil⟩

/-- The order of the parties does not matter. -/
theorem perm (same : calls.Perm calls') (reserved : Reserved reserves finds shared calls) :
    Reserved reserves finds shared calls' :=
  ⟨fun call member => reserved.finds call (same.mem_iff.mpr member),
    (same.pairwise_iff fun apart resource mine yours => apart resource yours mine).mp reserved.apart⟩

/-- The first party finds what it relies on. -/
theorem first (reserved : Reserved reserves finds shared (call :: others)) : finds shared call :=
  reserved.finds call List.mem_cons_self

/-- What the first party reserves, no other does. -/
theorem alone (reserved : Reserved reserves finds shared (call :: others)) {resource : R}
    (mine : resource ∈ reserves call) : ∀ other ∈ others, resource ∉ reserves other :=
  fun other member => (List.pairwise_cons.mp reserved.apart).1 other member resource mine

/-- Leaving one party out leaves the others their own. -/
theorem tail (reserved : Reserved reserves finds shared (call :: others)) : Reserved reserves finds shared others :=
  ⟨fun other member => reserved.finds other (List.mem_cons_of_mem _ member),
    (List.pairwise_cons.mp reserved.apart).2⟩

/-- A party that comes in with what no other has reserved disturbs nobody. -/
theorem cons (reserved : Reserved reserves finds shared calls) (own : finds shared call)
    (free : ∀ resource ∈ reserves call, ∀ other ∈ calls, resource ∉ reserves other) :
    Reserved reserves finds shared (call :: calls) :=
  ⟨List.forall_mem_cons.mpr ⟨own, reserved.finds⟩,
    List.pairwise_cons.mpr ⟨fun other member resource mine => free resource mine other member, reserved.apart⟩⟩

/-- Nor does one that reserves nothing. -/
theorem cons_idle (reserved : Reserved reserves finds shared calls) (own : finds shared call)
    (idle : reserves call = none) : Reserved reserves finds shared (call :: calls) := by
  -- Reserving nothing, it gets in nobody's way.
  refine reserved.cons own fun resource mine => ?_
  rw [idle] at mine
  cases mine

/-- What takes nothing from anybody leaves every reservation as it is. -/
theorem spare (reserved : Reserved reserves finds shared calls)
    (spares : ∀ call ∈ calls, finds shared call → finds shared' call) : Reserved reserves finds shared' calls :=
  ⟨fun call member => spares call member (reserved.finds call member), reserved.apart⟩

/--
A party takes a step. It may take something only from those who reserve what it reserves, of whom there are none,
and what it comes to reserve no other has reserved.
-/
theorem moves (reserved : Reserved reserves finds shared (call :: others)) (own : finds shared' next)
    (spares : ∀ other, (∀ resource ∈ reserves call, resource ∉ reserves other) → finds shared other →
      finds shared' other)
    (enters : ∀ resource ∈ reserves next, resource ∈ reserves call ∨ ∀ other ∈ others, resource ∉ reserves other) :
    Reserved reserves finds shared' (next :: others) := by
  -- Between the others nothing changes; between each of them and this one, only what it comes to reserve.
  obtain ⟨apart, single⟩ := List.pairwise_cons.mp reserved.apart
  refine ⟨List.forall_mem_cons.mpr ⟨own, fun other member => ?_⟩,
    List.pairwise_cons.mpr ⟨fun other member resource mine yours => ?_, single⟩⟩
  · exact spares other (apart other member) (reserved.tail.finds other member)
  · rcases enters resource mine with had | free
    · exact apart other member resource had yours
    · exact free other member yours

/-- A step that leaves a party without a reservation. -/
theorem lets_go (reserved : Reserved reserves finds shared (call :: others)) (own : finds shared' next)
    (idle : reserves next = none)
    (spares : ∀ other, (∀ resource ∈ reserves call, resource ∉ reserves other) → finds shared other →
      finds shared' other) : Reserved reserves finds shared' (next :: others) := by
  -- Reserving nothing, it enters nothing.
  refine reserved.moves own spares fun resource mine => ?_
  rw [idle] at mine
  cases mine

end Reserved

end Freight
