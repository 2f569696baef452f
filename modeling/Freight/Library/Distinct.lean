import Mathlib.Data.List.Nodup

/-! What a list comes to when only the first of equal entries is kept. -/

namespace Freight

variable {α β : Type*}

/-- Nothing is kept twice. -/
theorem nodup_eraseDups [BEq α] [LawfulBEq α] (list : List α) : list.eraseDups.Nodup := by
  -- The entries behind the first one are those that differ from it, without repetitions.
  induction length : list.length using Nat.strongRecOn generalizing list with
  | _ size ih =>
    cases list with
    | nil => exact List.nodup_nil
    | cons first rest =>
      rw [List.eraseDups_cons, List.nodup_cons]
      constructor
      · intro again
        have kept := (List.mem_filter.mp (List.mem_eraseDups.mp again)).2
        simp at kept
      · refine ih _ ?_ _ rfl
        rw [← length]
        exact Nat.lt_succ_of_le (List.length_filter_le _ _)

/-- Of sorted places, what stands at them is kept in the order of where it first stands. -/
theorem eraseDups_map_in_order [BEq β] [LawfulBEq β] {read : α → β} {before : α → α → Prop} {places : List α}
    (sorted : places.Pairwise before) :
    (places.map read).eraseDups.Pairwise fun one other =>
      ∃ first ∈ places, read first = one ∧ ∀ place ∈ places, read place = other → before first place := by
  -- By induction on how many places there are, since each round takes out more than one.
  induction length : places.length using Nat.strongRecOn generalizing places with
  | _ size ih =>
    cases places with
    | nil => exact List.Pairwise.nil
    | cons first rest =>
      rw [List.pairwise_cons] at sorted
      have same : (rest.map read).filter (fun other => !other == read first) =
          (rest.filter fun place => !read place == read first).map read := List.filter_map
      rw [List.map_cons, List.eraseDups_cons, same, List.pairwise_cons]
      constructor
      -- The first place reads as none of those that are left.
      · intro other listed
        obtain ⟨place, kept, rfl⟩ := List.mem_map.mp (List.mem_eraseDups.mp listed)
        have differs : read place ≠ read first := by simpa using (List.mem_filter.mp kept).2
        refine ⟨first, List.mem_cons_self, rfl, fun later member is_it => ?_⟩
        rcases List.mem_cons.mp member with rfl | member
        · exact absurd is_it.symm differs
        · exact sorted.1 later member
      -- And those that are left are in order by the induction.
      · have shorter : (rest.filter fun place => !read place == read first).length < size := by
          rw [← length]
          exact Nat.lt_succ_of_le (List.length_filter_le _ _)
        refine (ih _ shorter (sorted.2.filter _) rfl).imp_of_mem fun {one other} _ listed => ?_
        rintro ⟨place, kept, rfl, all⟩
        refine ⟨place, List.mem_cons_of_mem _ (List.mem_filter.mp kept).1, rfl, fun later member is_it => ?_⟩
        -- What the first place reads as has been taken out of the rest.
        obtain ⟨found, stays, rfl⟩ := List.mem_map.mp (List.mem_eraseDups.mp listed)
        have differs : read found ≠ read first := by simpa using (List.mem_filter.mp stays).2
        rcases List.mem_cons.mp member with rfl | member
        · exact absurd is_it.symm differs
        · refine all later (List.mem_filter.mpr ⟨member, ?_⟩) is_it
          rw [is_it]
          simpa using differs

end Freight
