import Freight.Payment.Effects

/-! What moves the debt of a driver: their own jobs, when one is recorded or cleared. -/

namespace Freight.Payment

variable {store : Store} {driver : String} {statement : Statement}

/-- A statement records an order's fare as cash, or clears the commission on it. -/
def Statement.onJob (statement : Statement) (orders : List Order) (id : Nat) : Prop :=
  (∃ taken ∈ statement.takes orders, taken.orderId = id) ∨
    ∃ cleared ∈ statement.clears orders, cleared.orderId = id

/-- A driver owes the same on two rows: nothing, or one debt of one age. -/
structure SameDebt (driver : String) (row other : Order) : Prop where
  same : owes driver other = owes driver row
  debt : owes driver row = true → Debt.of other = Debt.of row
  age : owes driver row = true → other.cashCollectedAt = row.cashCollectedAt

/-- Two views of the same rows that agree on what is owed on each show the same debts. -/
theorem outstanding_map {R : Type} {rows : List R} {before after : R → Order} {later : Store}
    (earlier_rows : store.orders = rows.map before) (later_rows : later.orders = rows.map after)
    (same : ∀ row ∈ rows, SameDebt driver (before row) (after row)) :
    outstanding later driver = outstanding store driver := by
  let owed := rows.filter fun row => owes driver (before row)
  have agree : ∀ row ∈ owed, SameDebt driver (before row) (after row) ∧
      owes driver (before row) = true := fun row member =>
    ⟨same row (List.mem_filter.mp member).1, (List.mem_filter.mp member).2⟩
  have chosen : later.orders.filter (owes driver) = owed.map after := by
    rw [later_rows, List.filter_map]
    exact congrArg (List.map after) (List.filter_congr fun row member => (same row member).same)
  -- The views agree on the age of each debt, so it does not matter which of them is sorted.
  have sorted (view : R → Order)
      (age : ∀ row ∈ owed, (view row).cashCollectedAt = (before row).cashCollectedAt) :
      (owed.map view).insertionSort (fun first second => collectedBefore first second) =
        (owed.insertionSort fun first second =>
          collectedBefore (before first) (before second)).map view := by
    refine (List.map_insertionSort _ _ view _ fun first one second other => ?_).symm
    simp only [collectedBefore, age first one, age second other]
  unfold outstanding
  rw [chosen, earlier_rows, List.filter_map, sorted after fun row member =>
    (agree row member).1.age (agree row member).2]
  refine Eq.trans ?_ (congrArg (List.map Debt.of) (sorted before fun _ _ => rfl)).symm
  simp only [List.map_map]
  apply List.map_congr_left
  intro row member
  have listed := agree row ((List.mem_insertionSort _).mp member)
  exact listed.1.debt listed.2

/-- A statement that neither records nor clears a job leaves what is owed on it alone. -/
theorem sameDebt_onOrder {row : Order} (member : row ∈ store.orders)
    (other : ¬ statement.onJob store.orders row.id) (now : Nat) :
    SameDebt driver row (statement.onOrder now row) := by
  -- Statement by statement: cash is recorded on one job, and debts are cleared on those it names.
  cases statement with
  | stampPayment | stampPaid =>
    simp only [Statement.onOrder]
    split <;> exact ⟨rfl, fun _ => rfl, fun _ => rfl⟩
  | takeCash id =>
    have spared : ¬ (row.id = id ∧ row.paymentStatus ≠ .paid) := fun taken =>
      other (.inl ⟨_, List.mem_map_of_mem (List.mem_filter.mpr ⟨member, decide_eq_true taken⟩), rfl⟩)
    simp only [Statement.onOrder, if_neg spared]
    exact ⟨rfl, fun _ => rfl, fun _ => rfl⟩
  | commitPayout payout ids =>
    have spared : row.id ∉ ids := fun cleared =>
      other (.inr ⟨_, List.mem_map_of_mem (List.mem_filter.mpr ⟨member, decide_eq_true cleared⟩), rfl⟩)
    simp only [Statement.onOrder, if_neg spared]
    exact ⟨rfl, fun _ => rfl, fun _ => rfl⟩
  | commitSettlement settlement status transactionId reason ids =>
    have spared : row.id ∉ ids := fun cleared =>
      other (.inr ⟨_, List.mem_map_of_mem (List.mem_filter.mpr ⟨member, decide_eq_true cleared⟩), rfl⟩)
    simp only [Statement.onOrder, if_neg spared]
    exact ⟨rfl, fun _ => rfl, fun _ => rfl⟩
  | settleCash id =>
    have spared : ¬ (row.id = id ∧ row.cashOutstanding) := fun cleared =>
      other (.inr ⟨_, List.mem_map_of_mem (List.mem_filter.mpr ⟨member, decide_eq_true cleared⟩), rfl⟩)
    simp only [Statement.onOrder, if_neg spared]
    exact ⟨rfl, fun _ => rfl, fun _ => rfl⟩
  | _ => exact ⟨rfl, fun _ => rfl, fun _ => rfl⟩

/-- On rows of other drivers a driver owes nothing. -/
theorem SameDebt.of_foreign {row other : Order} (foreign : row.assignedTo ≠ some driver)
    (still : other.assignedTo ≠ some driver) : SameDebt driver row other := by
  -- Neither row is owed for by this driver.
  have nothing : owes driver row = false := by simp [owes, foreign]
  have after : owes driver other = false := by simp [owes, still]
  exact ⟨after.trans nothing.symm, fun owed => absurd (nothing.symm.trans owed) Bool.false_ne_true,
    fun owed => absurd (nothing.symm.trans owed) Bool.false_ne_true⟩

/-- A driver's debts change only with a statement that records or clears a job of theirs. -/
theorem outstanding_execute_of_not_own
    (own : ∀ row ∈ store.orders, row.assignedTo = some driver → ¬ statement.onJob store.orders row.id) :
    outstanding (statement.execute store) driver = outstanding store driver := by
  refine outstanding_map (List.map_id' _).symm (execute_orders statement store) fun row member => ?_
  by_cases theirs : row.assignedTo = some driver
  · exact sameDebt_onOrder member (own row member theirs) store.now
  · -- No statement writes `assigned_to`.
    refine .of_foreign theirs ?_
    rw [(onOrder_same statement store.now row).1]
    exact theirs

/-- What `cashOwedBy` reports is read off the debts alone. -/
theorem cashOwedBy_congr {later : Store} (cfg : Config)
    (same : outstanding later driver = outstanding store driver) :
    cashOwedBy cfg later driver = cashOwedBy cfg store driver := by
  -- The debts are the one thing it reads.
  unfold cashOwedBy
  rw [same]

end Freight.Payment
