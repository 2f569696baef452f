import Mathlib.Data.List.Basic

/-! Where things stand in a list. -/

namespace Freight

variable {α β : Type*} [DecidableEq α] [DecidableEq β]

/-- Renaming things, no two of them alike, leaves each where it stands. -/
theorem idxOf_map_of_apart {rename : α → β} {list : List α} {thing : α}
    (apart : ∀ other ∈ list, rename other = rename thing → other = thing) :
    (list.map rename).idxOf (rename thing) = list.idxOf thing := by
  -- Along the list: the first thing alike after renaming is the first that is the thing itself.
  induction list with
  | nil => rfl
  | cons first rest ih =>
    have later := ih fun other member => apart other (List.mem_cons_of_mem _ member)
    by_cases same : first = thing
    · rw [same, List.map_cons, List.idxOf_cons_self, List.idxOf_cons_self]
    · have renamed : rename first ≠ rename thing := fun alike =>
        same (apart first List.mem_cons_self alike)
      rw [List.map_cons, List.idxOf_cons_ne _ renamed, List.idxOf_cons_ne _ same, later]

/-- In an ordered list the smaller of two things stands first. -/
theorem idxOf_lt_of_sorted {key : α → Nat} {list : List α}
    (sorted : list.Pairwise fun one other => key one ≤ key other) {first second : α}
    (member : first ∈ list) (smaller : key first < key second) :
    list.idxOf first < list.idxOf second := by
  -- Along the list: the head is the first of the two, or neither, and never the second.
  have apart : first ≠ second := by
    rintro rfl
    exact absurd smaller (Nat.lt_irrefl _)
  induction list with
  | nil => cases member
  | cons head rest ih =>
    obtain ⟨before, ordered⟩ := List.pairwise_cons.mp sorted
    by_cases at_first : head = first
    · rw [at_first, List.idxOf_cons_self, List.idxOf_cons_ne _ apart]
      exact Nat.succ_pos _
    · have listed := (List.mem_cons.mp member).resolve_left (Ne.symm at_first)
      have not_second : head ≠ second := by
        rintro rfl
        exact absurd (before first listed) (Nat.not_le_of_lt smaller)
      rw [List.idxOf_cons_ne _ at_first, List.idxOf_cons_ne _ not_second]
      exact Nat.succ_lt_succ (ih ordered listed)

/-- In a list without repetitions a thing stands only where it is. -/
theorem idxOf_of_getElem? {list : List α} (distinct : list.Nodup) {position : Nat} {thing : α}
    (there : list[position]? = some thing) : list.idxOf thing = position := by
  -- It stands there, and nowhere else.
  obtain ⟨within, rfl⟩ := List.getElem?_eq_some_iff.mp there
  exact distinct.idxOf_getElem position within

/-- What is in the first of two lists stands before what is in the second alone. -/
theorem idxOf_lt_of_append {front back : List α} {first second : α} (member : first ∈ front)
    (apart : second ∉ front) : (front ++ back).idxOf first < (front ++ back).idxOf second := by
  -- The one stands within the front, the other past its end.
  rw [List.idxOf_append_of_mem member, List.idxOf_append_of_notMem apart]
  exact Nat.lt_of_lt_of_le (List.idxOf_lt_length_iff.mpr member) (Nat.le_add_right _ _)

end Freight
