import Mathlib.Data.List.Dedup
import Mathlib.Data.List.Sort

/-! `ORDER BY … LIMIT 1`, and `DISTINCT ON`: the first rows under an order. -/

namespace Freight

variable {R K : Type*}

/-- `ORDER BY … LIMIT 1`: the first row under an order. -/
def firstBy (before : R → R → Prop) [DecidableRel before] (rows : List R) : Option R :=
  (rows.insertionSort before).head?

/-- `SELECT DISTINCT ON (key) … ORDER BY key, …`: the first row of each key. -/
def distinctOn [DecidableEq K] (key : R → K) (before : R → R → Prop) [DecidableRel before]
    (rows : List R) : List R :=
  ((rows.map key).dedup).filterMap fun value => firstBy before (rows.filter fun row => key row = value)

section
variable {before : R → R → Prop} [DecidableRel before]

/-- What comes first is one of the rows. -/
theorem mem_of_firstBy {rows : List R} {row : R} (first : firstBy before rows = some row) :
    row ∈ rows := by
  -- The head of the sorted rows, which are the rows.
  have listed := List.mem_of_head? first
  exact (List.mem_insertionSort before).mp listed

/-- A row that no other row comes before is the first. -/
theorem firstBy_eq_some [Std.Total before] [IsTrans R before] {rows : List R} {row : R}
    (member : row ∈ rows) (first : ∀ other ∈ rows, before other row → other = row) :
    firstBy before rows = some row := by
  have listed := (List.mem_insertionSort before).mpr member
  have sorted := List.pairwise_insertionSort before rows
  unfold firstBy
  cases ordered : rows.insertionSort before with
  | nil =>
    rw [ordered] at listed
    cases listed
  | cons head rest =>
    rw [ordered] at listed sorted
    have among : head ∈ rows := (List.mem_insertionSort before).mp (by rw [ordered]; simp)
    rcases List.mem_cons.mp listed with rfl | later
    · rfl
    · -- The head comes before the row, so it is the row.
      rw [List.head?_cons, first head among (List.rel_of_pairwise_cons sorted later)]

/-- The row listed for a key is the first of that key's rows. -/
theorem find?_distinctOn [DecidableEq K] (key : R → K) (rows : List R) (value : K) :
    (distinctOn key before rows).find? (fun row => key row = value) =
      firstBy before (rows.filter fun row => key row = value) := by
  have keyed : ∀ {own row}, firstBy before (rows.filter fun row => key row = own) = some row →
      key row = own := fun first => of_decide_eq_true (List.mem_filter.mp (mem_of_firstBy first)).2
  -- Key by key, only the one that is asked for has a row that passes.
  have among : ∀ keys : List K, (keys.filterMap fun own =>
      firstBy before (rows.filter fun row => key row = own)).find? (fun row => key row = value) =
        if value ∈ keys then firstBy before (rows.filter fun row => key row = value) else none := by
    intro keys
    induction keys with
    | nil => rfl
    | cons own rest ih =>
      rw [List.filterMap_cons]
      cases first : firstBy before (rows.filter fun row => key row = own) with
      | none =>
        simp only [ih, List.mem_cons]
        by_cases same : value = own
        · subst same
          simp [first]
        · simp [same]
      | some row =>
        have named := keyed first
        simp only [List.find?_cons, named, ih, List.mem_cons]
        by_cases same : value = own
        · subst same
          simp [first]
        · simp [same, Ne.symm same]
  unfold distinctOn
  rw [among, if_congr List.mem_dedup rfl rfl]
  split
  · rfl
  · rename_i absent
    -- A key no row has comes first nowhere.
    have none_left : rows.filter (fun row => key row = value) = [] := by
      rw [List.filter_eq_nil_iff]
      exact fun row member own => absent (List.mem_map.mpr ⟨row, member, of_decide_eq_true own⟩)
    rw [none_left]
    rfl

end

/-- A row among the first few, the greatest first, has fewer rows that are greater. -/
theorem countP_lt_of_mem_take {α : Type*} [LinearOrder α] (value : R → α) {rows : List R} {row : R} {few : Nat}
    (sorted : rows.Pairwise fun one other => value other ≤ value one) (member : row ∈ rows.take few) :
    rows.countP (fun other => value row < value other) < few := by
  -- The induction takes rows off the front, one place at a time.
  induction rows generalizing few with
  | nil => simp at member
  | cons head rest ih =>
    obtain ⟨greatest, sorted⟩ := List.pairwise_cons.mp sorted
    cases few with
    | zero => simp at member
    | succ few =>
      rcases List.mem_cons.mp member with rfl | later
      · -- Nothing is greater than the first.
        have none : (row :: rest).countP (fun other => value row < value other) = 0 := by
          refine List.countP_eq_zero.mpr fun other listed => ?_
          rcases List.mem_cons.mp listed with rfl | behind
          · simp
          · simpa using greatest other behind
        omega
      · have fewer := ih sorted later
        rw [List.countP_cons]
        split <;> omega

end Freight
