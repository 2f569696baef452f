import Mathlib.Data.List.Basic
import Mathlib.Data.List.Nodup
import Freight.Library.Table

/-! What is spent once because it is marked as spent, and not spent where it is marked. -/

namespace Freight

variable {K : Type*} {marked later : K → Prop} {spent : List K} {one : K}

/-- Nothing has been spent twice, and whatever has been spent is marked. -/
structure SpentOnce (marked : K → Prop) (spent : List K) : Prop where
  once : spent.Nodup
  marks : ∀ one ∈ spent, marked one

namespace SpentOnce

/-- Where nothing has been spent, nothing has to be marked. -/
theorem nil : SpentOnce marked [] := ⟨List.nodup_nil, by simp⟩

/-- Marks that stay keep what has been spent marked. -/
theorem mono (spending : SpentOnce marked spent) (stays : ∀ one, marked one → later one) : SpentOnce later spent :=
  ⟨spending.once, fun one member => stays one (spending.marks one member)⟩

/-- The order in which things were spent makes no difference. -/
theorem perm {other : List K} (spending : SpentOnce marked spent) (same : spent.Perm other) :
    SpentOnce marked other :=
  ⟨same.nodup_iff.mp spending.once, fun one member => spending.marks one (same.mem_iff.mpr member)⟩

/-- Less may have been spent. -/
theorem sublist {fewer : List K} (spending : SpentOnce marked spent) (within : fewer.Sublist spent) :
    SpentOnce marked fewer :=
  ⟨spending.once.sublist within, fun one member => spending.marks one (within.subset member)⟩

/-- What is not marked is spent for the first time, and marked with it. -/
theorem cons (spending : SpentOnce marked spent) (stays : ∀ one, marked one → later one) (unmarked : ¬ marked one)
    (marks : later one) : SpentOnce later (one :: spent) := by
  -- Spent before, it would be marked already.
  refine ⟨List.nodup_cons.mpr ⟨fun before => unmarked (spending.marks one before), spending.once⟩, ?_⟩
  intro other member
  rcases List.mem_cons.mp member with rfl | before
  · exact marks
  · exact stays other (spending.marks other before)

/-- So it is where it is put behind the rest. -/
theorem concat (spending : SpentOnce marked spent) (stays : ∀ one, marked one → later one) (unmarked : ¬ marked one)
    (marks : later one) : SpentOnce later (spent ++ [one]) :=
  (spending.cons stays unmarked marks).perm (List.perm_append_singleton _ _).symm

end SpentOnce

section Rows

variable {R : Type*} [DecidableEq K] {key : R → K} {table : Table R key} {is : R → Prop} {change : R → R}
  (keeps : ∀ row, key (change row) = key row) {id : K}

/-- A mark on a row stays where a change of some rows leaves it. -/
theorem Table.marked_updateWhere {chosen : R → Bool} (marks : ∃ row, table.find? id = some row ∧ is row)
    (stays : ∀ row, is row → is (change row)) :
    ∃ row, (table.updateWhere chosen change keeps).find? id = some row ∧ is row := by
  -- The row is still found under its key, changed or not.
  obtain ⟨row, found, marked⟩ := marks
  rw [Table.find?_updateWhere, found]
  refine ⟨_, rfl, ?_⟩
  show is (if chosen row then change row else row)
  split
  · exact stays row marked
  · exact marked

/-- So it does where one row is changed. -/
theorem Table.marked_update {changed : K} (marks : ∃ row, table.find? id = some row ∧ is row)
    (stays : ∀ row, is row → is (change row)) :
    ∃ row, (table.update changed change keeps).find? id = some row ∧ is row :=
  Table.marked_updateWhere keeps marks stays

/-- The row that is changed is marked, where the change marks it. -/
theorem Table.marks_update (found : (table.find? id).isSome = true) (marks : ∀ row, is (change row)) :
    ∃ row, (table.update id change keeps).find? id = some row ∧ is row := by
  -- The row is found under its key, as the change leaves it.
  obtain ⟨row, under⟩ := Option.isSome_iff_exists.mp found
  rw [Table.find?_update, if_pos rfl, under]
  exact ⟨_, rfl, marks row⟩

end Rows

end Freight
