import Mathlib.Data.List.Nodup
import Mathlib.Data.List.Perm.Subperm

/-! Rows gathered under their keys, where of several rows under one key the last is kept. -/

namespace Freight

variable {R K : Type*} {key : R → K}

/-- Rows without two under one key are as many as the keys exactly when there is one under each. -/
theorem length_eq_iff_covers {rows : List R} {keys : List K} (distinct : (rows.map key).Nodup)
    (within : ∀ row ∈ rows, key row ∈ keys) (nodup : keys.Nodup) :
    rows.length = keys.length ↔ ∀ k ∈ keys, ∃ row ∈ rows, key row = k := by
  have listed : (rows.map key) ⊆ keys := fun k member => by
    obtain ⟨row, mine, rfl⟩ := List.mem_map.mp member
    exact within row mine
  constructor
  · intro same k member
    -- A list without repetitions that is no shorter than one it lies in is a rearrangement of it.
    have all : (rows.map key).Perm keys :=
      (List.subperm_of_subset distinct listed).perm_of_length_le (by simp [same])
    exact List.mem_map.mp (all.mem_iff.mpr member)
  · intro covers
    have covered : keys ⊆ rows.map key := fun k member => List.mem_map.mpr (covers k member)
    have fewer := (List.subperm_of_subset distinct listed).length_le
    have more := (List.subperm_of_subset nodup covered).length_le
    rw [List.length_map] at fewer more
    omega

/-- With a row under each key, there is just one under each exactly when the rows are no more. -/
theorem one_each_iff [DecidableEq K] {rows : List R} {keys : List K}
    (within : ∀ row ∈ rows, key row ∈ keys) (nodup : keys.Nodup)
    (covers : ∀ k ∈ keys, ∃ row ∈ rows, key row = k) :
    (∀ k ∈ keys, ∃ row, rows.filter (fun row => key row = k) = [row]) ↔
      rows.length = keys.length := by
  -- How often a key comes up among the rows is how many rows are filed under it.
  have counted : ∀ k, (rows.map key).count k = (rows.filter fun row => key row = k).length := by
    intro k
    rw [List.count, List.countP_map, List.countP_eq_length_filter]
    rfl
  constructor
  · intro single
    have distinct : (rows.map key).Nodup := by
      rw [List.nodup_iff_count_le_one]
      intro k
      by_cases member : k ∈ rows.map key
      · obtain ⟨row, mine, rfl⟩ := List.mem_map.mp member
        obtain ⟨only, alone⟩ := single _ (within row mine)
        simp [counted, alone]
      · rw [List.count_eq_zero.mpr member]
        exact Nat.zero_le 1
    exact (length_eq_iff_covers distinct within nodup).mpr covers
  · intro same k member
    -- The keys are no fewer than the rows, so the rows have each of them once.
    have inside : keys ⊆ rows.map key := fun k member => List.mem_map.mpr (covers k member)
    have all : keys.Perm (rows.map key) :=
      (List.subperm_of_subset nodup inside).perm_of_length_le (by simp [same])
    have once : (rows.filter fun row => key row = k).length = 1 := by
      rw [← counted, ← all.count_eq]
      exact List.count_eq_one_of_mem nodup member
    exact List.length_eq_one_iff.mp once

section Last

variable [DecidableEq K]

/-- `Object.fromEntries`: what is found under a key is the last row with it. -/
def fromEntries (key : R → K) (rows : List R) (k : K) : Option R :=
  (rows.filter fun row => key row = k).getLast?

/-- What is found under a key is one of the rows, and has that key. -/
theorem mem_of_fromEntries {rows : List R} {k : K} {row : R}
    (found : fromEntries key rows k = some row) : row ∈ rows ∧ key row = k := by
  -- The last of the rows that pass the filter is one that does.
  have member := List.mem_filter.mp (List.mem_of_getLast? found)
  exact ⟨member.1, of_decide_eq_true member.2⟩

/-- Something is found under a key that some row has. -/
theorem fromEntries_isSome {rows : List R} {k : K} {row : R} (member : row ∈ rows)
    (own : key row = k) : (fromEntries key rows k).isSome := by
  -- The row passes the filter, so there is a last that does.
  unfold fromEntries
  rw [List.getLast?_isSome]
  exact List.ne_nil_of_mem (List.mem_filter.mpr ⟨member, decide_eq_true own⟩)

/-- Rows further on are found before those that come earlier. -/
theorem fromEntries_append (first second : List R) (k : K) :
    fromEntries key (first ++ second) k = (fromEntries key second k).or (fromEntries key first k) := by
  -- The last of two lists is the second's, where it has one.
  unfold fromEntries
  rw [List.filter_append, List.getLast?_append]

variable {good : R → Bool} {keys : List K} {listed : List R}

/-- In some order the rows found under the keys are good, if there is a good one under each. -/
theorem exists_order_iff :
    (∃ rows, rows.Perm listed ∧ ∀ k ∈ keys, (fromEntries key rows k).any good = true) ↔
      ∀ k ∈ keys, ∃ row ∈ listed, key row = k ∧ good row = true := by
  constructor
  · rintro ⟨rows, same, finds⟩ k member
    obtain ⟨row, found, fine⟩ := (Option.any_eq_true _ _).mp (finds k member)
    obtain ⟨mine, own⟩ := mem_of_fromEntries found
    exact ⟨row, same.mem_iff.mp mine, own, fine⟩
  · intro has
    -- The good rows are put last.
    refine ⟨listed.filter (fun row => !good row) ++ listed.filter good,
      (List.perm_append_comm).trans (List.filter_append_perm good listed), fun k member => ?_⟩
    obtain ⟨row, mine, own, fine⟩ := has k member
    obtain ⟨last, found⟩ := Option.isSome_iff_exists.mp
      (fromEntries_isSome (List.mem_filter.mpr ⟨mine, fine⟩) own)
    rw [fromEntries_append, found, Option.some_or, Option.any_some]
    exact (List.mem_filter.mp (mem_of_fromEntries found).1).2

/-- In every order they are good, if there is a row under each key and none under it is bad. -/
theorem forall_order_iff :
    (∀ rows, rows.Perm listed → ∀ k ∈ keys, (fromEntries key rows k).any good = true) ↔
      ∀ k ∈ keys, (∃ row ∈ listed, key row = k) ∧ ∀ row ∈ listed, key row = k → good row = true := by
  constructor
  · intro finds k member
    obtain ⟨last, found, -⟩ := (Option.any_eq_true _ _).mp (finds listed (List.Perm.refl _) k member)
    refine ⟨⟨last, mem_of_fromEntries found⟩, fun row mine own => ?_⟩
    -- With the bad rows last, a bad row under the key would be found there.
    have worst := finds (listed.filter good ++ listed.filter fun row => !good row)
      (List.filter_append_perm good listed) k member
    by_contra bad
    have there : row ∈ listed.filter fun row => !good row :=
      List.mem_filter.mpr ⟨mine, by simpa using bad⟩
    obtain ⟨other, found⟩ := Option.isSome_iff_exists.mp (fromEntries_isSome there own)
    rw [fromEntries_append, found, Option.some_or, Option.any_some] at worst
    have fails := (List.mem_filter.mp (mem_of_fromEntries found).1).2
    simp [worst] at fails
  · intro all rows same k member
    obtain ⟨⟨row, mine, own⟩, fine⟩ := all k member
    obtain ⟨last, found⟩ := Option.isSome_iff_exists.mp (fromEntries_isSome (same.mem_iff.mpr mine) own)
    obtain ⟨there, under⟩ := mem_of_fromEntries found
    rw [found, Option.any_some]
    exact fine last (same.mem_iff.mp there) under

end Last

end Freight
