import Mathlib.Data.List.Basic
import Mathlib.Data.List.Perm.Basic
import Freight.Library.Positions

/-! Greedy orderings: one thing after another is taken from what is left, where it may be taken yet. -/

namespace Freight

variable {α S : Type*}

/-- What may be taken next: what is free already, and everything where nothing is. -/
def takeable (free : S → α → Bool) (state : S) (left : List α) : List α :=
  if (left.filter (free state)).isEmpty then left else left.filter (free state)

/-- One thing after another, the best of what may be taken, until nothing is left. -/
def greedy [DecidableEq α] (free : S → α → Bool) (best : S → List α → Option α)
    (after : S → α → S) : Nat → S → List α → List α
  | 0, _, _ => []
  | rounds + 1, state, left =>
    match best state (takeable free state left) with
    | none => []
    | some next => next :: greedy free best after rounds (after state next) (left.erase next)

/-- A choice among some things is one of them, and is made whenever there are any. -/
structure Chooses (best : S → List α → Option α) : Prop where
  among : ∀ {state things chosen}, best state things = some chosen → chosen ∈ things
  some_ : ∀ state things, things ≠ [] → (best state things).isSome = true

section
variable {free : S → α → Bool} {best : S → List α → Option α} {after : S → α → S}

/-- What may be taken is left. -/
theorem mem_of_takeable {state : S} {left : List α} {thing : α}
    (member : thing ∈ takeable free state left) : thing ∈ left := by
  -- Filtered or not, it is taken from what is left.
  unfold takeable at member
  split at member
  · exact member
  · exact (List.mem_filter.mp member).1

/-- While something is free, only what is free may be taken. -/
theorem free_of_takeable {state : S} {left : List α} {thing other : α}
    (member : thing ∈ takeable free state left) (there : other ∈ left)
    (is_free : free state other = true) : free state thing = true := by
  -- The filter is not empty, so it is the filter that is chosen from.
  have some_free : (left.filter (free state)).isEmpty = false := by
    rw [List.isEmpty_eq_false_iff]
    exact List.ne_nil_of_mem (List.mem_filter.mpr ⟨there, is_free⟩)
  rw [takeable, some_free] at member
  exact (List.mem_filter.mp member).2

/-- What is free may be taken. -/
theorem takeable_of_free {state : S} {left : List α} {thing : α} (there : thing ∈ left)
    (is_free : free state thing = true) : thing ∈ takeable free state left := by
  -- It passes the filter, which is therefore the list to choose from.
  have listed : thing ∈ left.filter (free state) := List.mem_filter.mpr ⟨there, is_free⟩
  have some_free : (left.filter (free state)).isEmpty = false :=
    List.isEmpty_eq_false_iff.mpr (List.ne_nil_of_mem listed)
  rw [takeable, some_free]
  exact listed

/-- Where nothing is free, anything may be taken. -/
theorem takeable_of_none {state : S} {left : List α}
    (none_free : ¬ ∃ thing ∈ left, free state thing = true) : takeable free state left = left := by
  -- The filter leaves nothing, so the whole of the rest may be taken.
  have nothing : left.filter (free state) = [] :=
    List.filter_eq_nil_iff.mpr fun thing there is_free => none_free ⟨thing, there, is_free⟩
  rw [takeable, nothing]
  rfl

/-- Where anything is left, something may be taken. -/
theorem takeable_ne_nil {state : S} {left : List α} (some_left : left ≠ []) :
    takeable free state left ≠ [] := by
  -- The filter is only used where it leaves something.
  unfold takeable
  split
  · exact some_left
  · rename_i some_free
    exact fun empty => some_free (by rw [empty]; rfl)

variable [DecidableEq α]

/-- Everything is taken, each thing once. -/
theorem greedy_perm (chooses : Chooses best) {rounds : Nat} {state : S} {left : List α}
    (enough : left.length ≤ rounds) : (greedy free best after rounds state left).Perm left := by
  induction rounds generalizing state left with
  | zero =>
    rw [List.length_eq_zero_iff.mp (Nat.le_zero.mp enough)]
    exact List.Perm.refl _
  | succ rounds ih =>
    simp only [greedy]
    cases chosen : best state (takeable free state left) with
    | none =>
      -- Nothing is chosen only where nothing is left.
      by_cases empty : left = []
      · rw [empty]
      · have picks := chooses.some_ state _ (@takeable_ne_nil _ _ free state left empty)
        rw [chosen] at picks
        cases picks
    | some next =>
      have member := mem_of_takeable (chooses.among chosen)
      have shorter : (left.erase next).length ≤ rounds := by
        rw [List.length_erase_of_mem member]
        omega
      exact (List.Perm.cons next (ih shorter)).trans (List.perm_cons_erase member).symm

/-- Once there are rounds enough for everything, further rounds take nothing. -/
theorem greedy_enough (chooses : Chooses best) {rounds : Nat} {state : S} {left : List α}
    (enough : left.length ≤ rounds) :
    greedy free best after rounds state left = greedy free best after left.length state left := by
  -- Every round takes one thing, so both counts of rounds outlast what is left.
  induction rounds generalizing state left with
  | zero =>
    rw [List.length_eq_zero_iff.mp (Nat.le_zero.mp enough)]
    rfl
  | succ rounds ih =>
    cases left with
    | nil =>
      have nothing : best state (takeable free state []) = none := by
        cases chosen : best state (takeable free state []) with
        | none => rfl
        | some next => exact absurd (mem_of_takeable (chooses.among chosen)) List.not_mem_nil
      simp only [greedy, nothing, List.length_nil]
    | cons first rest =>
      simp only [greedy, List.length_cons]
      cases chosen : best state (takeable free state (first :: rest)) with
      | none => rfl
      | some next =>
        have shorter : ((first :: rest).erase next).length = rest.length := by
          rw [List.length_erase_of_mem (mem_of_takeable (chooses.among chosen))]
          rfl
        have fits : ((first :: rest).erase next).length ≤ rounds := by
          rw [shorter]
          exact Nat.le_of_succ_le_succ enough
        simp only [ih fits, shorter]

/-- What waits for one of the awaited things is taken behind one of them. -/
theorem greedy_behind (chooses : Chooses best) {awaited : α → Prop} {second : α}
    (always : ∀ state first, awaited first → free state first = true)
    {waiting : S → Prop} (blocked : ∀ state, waiting state → free state second = false)
    {things : List α}
    (stays : ∀ state, ∀ other ∈ things, waiting state → ¬ awaited other → waiting (after state other))
    {rounds : Nat} {state : S} {left : List α} (within : left ⊆ things) (waits : waiting state)
    (there : ∃ first ∈ left, awaited first) {before behind : List α}
    (split : greedy free best after rounds state left = before ++ second :: behind) :
    ∃ first ∈ before, awaited first := by
  induction rounds generalizing state left before with
  | zero => cases before <;> cases split
  | succ rounds ih =>
    obtain ⟨first, member, is_first⟩ := there
    simp only [greedy] at split
    cases chosen : best state (takeable free state left) with
    | none =>
      rw [chosen] at split
      cases before <;> cases split
    | some next =>
      simp only [chosen] at split
      have taken := chooses.among chosen
      have is_free := free_of_takeable taken member (always state first is_first)
      cases before with
      | nil =>
        -- The second one waits, so it is not the one that is taken.
        obtain ⟨rfl, -⟩ := List.cons.inj split
        rw [blocked state waits] at is_free
        cases is_free
      | cons head front =>
        obtain ⟨rfl, later⟩ := List.cons.inj split
        by_cases now : awaited next
        · exact ⟨next, List.mem_cons_self, now⟩
        · have not_it : first ≠ next := fun same => now (same ▸ is_first)
          have still := stays state next (within (mem_of_takeable taken)) waits now
          obtain ⟨found, listed, is_found⟩ := ih (fun _ kept => within (List.mem_of_mem_erase kept)) still
            ⟨first, (List.mem_erase_of_ne not_it).mpr member, is_first⟩ later
          exact ⟨found, List.mem_cons_of_mem _ listed, is_found⟩

/-- What is always free is taken before what waits for it. -/
theorem greedy_before (chooses : Chooses best) {first second : α}
    (always : ∀ state, free state first = true) {waiting : S → Prop}
    (blocked : ∀ state, waiting state → free state second = false)
    {things : List α}
    (stays : ∀ state, ∀ other ∈ things, waiting state → other ≠ first → waiting (after state other))
    {rounds : Nat} {state : S} {left : List α} (within : left ⊆ things)
    (enough : left.length ≤ rounds) (waits : waiting state) (there : first ∈ left) :
    (greedy free best after rounds state left).idxOf first <
      (greedy free best after rounds state left).idxOf second := by
  have taken : first ∈ greedy free best after rounds state left :=
    (greedy_perm chooses enough).mem_iff.mpr there
  -- Taken at all, the second stands behind the first; never taken, it stands past the end.
  by_cases listed : second ∈ greedy free best after rounds state left
  · obtain ⟨before, behind, split, apart⟩ := List.eq_append_cons_of_mem listed
    obtain ⟨found, ahead, rfl⟩ : ∃ found ∈ before, found = first :=
      greedy_behind chooses (fun state _ same => same ▸ always state) blocked stays within waits
        ⟨first, there, rfl⟩ split
    rw [split]
    exact idxOf_lt_of_append ahead apart
  · rw [List.idxOf_eq_length listed]
    exact List.idxOf_lt_length_iff.mpr taken

/-- Something is so at every turn of a greedy ordering, of its state and of what is left. -/
def EveryTurn (free : S → α → Bool) (best : S → List α → Option α) (after : S → α → S)
    (turn : S → List α → Prop) : Nat → S → List α → Prop
  | 0, _, _ => True
  | rounds + 1, state, left =>
    match best state (takeable free state left) with
    -- Nothing that is left may be taken, so there are no more turns.
    | none => True
    | some next =>
      turn state left ∧ EveryTurn free best after turn rounds (after state next) (left.erase next)

/-- What is decided turn by turn is decided of all of them. -/
instance EveryTurn.decidable (free : S → α → Bool) (best : S → List α → Option α) (after : S → α → S)
    (turn : S → List α → Prop) [each : ∀ state left, Decidable (turn state left)] :
    (rounds : Nat) → (state : S) → (left : List α) →
      Decidable (EveryTurn free best after turn rounds state left)
  | 0, _, _ => isTrue trivial
  | rounds + 1, state, left =>
    match chosen : best state (takeable free state left) with
    | none => isTrue (by simp only [EveryTurn, chosen])
    | some next =>
      have := EveryTurn.decidable free best after turn rounds (after state next) (left.erase next)
      decidable_of_iff (turn state left ∧
          EveryTurn free best after turn rounds (after state next) (left.erase next))
        (by simp only [EveryTurn, chosen])

end

end Freight
