import Freight.Payment.Keys

/-! Debts and settlement rows, the locks they are written under, and what leaves them as they are. -/

namespace Freight

namespace Order

/-- What a debt is read off is the same in both. -/
structure SameDebt (order next : Order) : Prop where
  id : next.id = order.id
  assignedTo : next.assignedTo = order.assignedTo
  currency : next.currency = order.currency
  platformFee : next.platformFee = order.platformFee
  paymentMethod : next.paymentMethod = order.paymentMethod
  cashSettledAt : next.cashSettledAt = order.cashSettledAt

/-- A status update leaves the debt as it is. -/
theorem statusUpdated_debt (order : Order) (rateOf : Nat → Option Rate) (status : OrderStatus)
    (waited : Option ℚ) : order.SameDebt (order.statusUpdated rateOf status waited) := by
  -- Leaving a pickup charges the wait, which is no part of what is owed.
  simp only [Order.statusUpdated]
  split
  · split
    · cases order.detentionForOrder rateOf waited <;> exact ⟨rfl, rfl, rfl, rfl, rfl, rfl⟩
    · exact ⟨rfl, rfl, rfl, rfl, rfl, rfl⟩
  · exact ⟨rfl, rfl, rfl, rfl, rfl, rfl⟩

/-- So does confirming a delivery. -/
theorem deliveryConfirmed_debt (order : Order) (rateOf : Nat → Option Rate) (waited : Option ℚ)
    (filledBy : Option Nat) : order.SameDebt (order.deliveryConfirmed rateOf waited filledBy) := by
  -- A delivery settles the price, and a debt is of the fee.
  simp only [Order.deliveryConfirmed]
  split <;> exact ⟨rfl, rfl, rfl, rfl, rfl, rfl⟩

/-- An order with the same debt owes the same. -/
theorem SameDebt.owes {order next : Order} (same : order.SameDebt next) (driver : String) :
    Payment.owes driver next = Payment.owes driver order ∧ Payment.Debt.of next = Payment.Debt.of order := by
  -- The six columns are all that is read.
  simp [Payment.owes, Order.cashOutstanding, Payment.Debt.of, same.id, same.assignedTo, same.currency,
    same.platformFee, same.paymentMethod, same.cashSettledAt]

end Order

namespace Payment

/-- The debt is that of an order of the driver's, settled or not. -/
def Booked (store : Store) (driver : String) (debt : Debt) : Prop :=
  ∃ order ∈ store.orders, order.assignedTo = some driver ∧ Debt.of order = debt

/-- An outstanding debt is on the driver's books. -/
theorem booked_of_outstanding {store : Store} {driver : String} {debt : Debt}
    (owed : debt ∈ outstanding store driver) : Booked store driver debt := by
  -- What is owed is owed by the driver the order is assigned to.
  obtain ⟨order, listed, owes, same⟩ := mem_outstanding.mp owed
  simp only [Payment.owes, Bool.and_eq_true, decide_eq_true_eq] at owes
  exact ⟨order, listed, owes.1.1, same⟩

/-- A driver's debts are of as many orders. -/
theorem outstanding_distinct {store : Store} (distinct : (store.orders.map Order.id).Nodup)
    (driver : String) : ((outstanding store driver).map Debt.orderId).Nodup := by
  -- Sorted, they are the same orders, and orders have an id each.
  have sorted := ((store.orders.filter (owes driver)).perm_insertionSort fun first second =>
    collectedBefore first second = true).map Order.id
  have ids : (outstanding store driver).map Debt.orderId =
      ((store.orders.filter (owes driver)).insertionSort fun first second =>
        collectedBefore first second).map Order.id := by
    simp [outstanding, Function.comp_def, Debt.of]
  rw [ids]
  exact sorted.nodup_iff.mpr (distinct.sublist (List.filter_sublist.map _))

/-- The locks under which a statement writes to debts and to settlements already on record. -/
def Statement.guards : Statement → List Lock
  | .commitPayout _ cleared => cleared.map .order
  | .commitSettlement settlement _ _ _ cleared =>
    .settlement settlement.id :: cleared.map .order
  | .settleCash id => [.order id]
  | .failSettlement id _ => [.settlement id]
  | _ => []

/-- No statement changes what a debt is of, or how much. -/
theorem debtOf_onOrder (statement : Statement) (now : Nat) (row : Order) :
    Debt.of (statement.onOrder now row) = Debt.of row := by
  -- The currency and the fee are columns that no statement writes.
  have same := onOrder_same statement now row
  simp [Debt.of, same.2.1, same.2.2.2.1]

/-- A debt stays outstanding under every statement that does not write under its lock. -/
theorem owes_onOrder {statement : Statement} {driver : String} {row : Order}
    (owed : owes driver row = true) (unguarded : .order row.id ∉ statement.guards) (now : Nat) :
    owes driver (statement.onOrder now row) = true := by
  have same := onOrder_same statement now row
  simp only [owes, same.1, same.2.2.2.1, Order.cashOutstanding] at owed ⊢
  cases statement with
  | stampPayment | stampPaid =>
    simp only [Statement.onOrder]
    split <;> exact owed
  | takeCash id =>
    simp only [Statement.onOrder]
    split
    · simp only [Bool.and_eq_true] at owed ⊢
      exact ⟨⟨owed.1.1, by simpa using owed.1.2.2⟩, owed.2⟩
    · exact owed
  | commitPayout payout cleared =>
    -- The order is not among those that the statement writes under lock.
    have kept : row.id ∉ cleared := by simpa [Statement.guards] using unguarded
    simpa [Statement.onOrder, kept] using owed
  | commitSettlement settlement status transactionId reason cleared =>
    have kept : row.id ∉ cleared := by simpa [Statement.guards] using unguarded
    simpa [Statement.onOrder, kept] using owed
  | settleCash id =>
    have other : row.id ≠ id := by simpa [Statement.guards] using unguarded
    simpa [Statement.onOrder, other] using owed
  | _ => exact owed

/-- A debt stays outstanding while nothing is written under its lock. -/
theorem outstanding_execute {statement : Statement} {store : Store} {driver : String} {debt : Debt}
    (owed : debt ∈ outstanding store driver) (unguarded : debt.lock ∉ statement.guards) :
    debt ∈ outstanding (statement.execute store) driver := by
  -- The row is the same debt after the statement, which wrote nothing under its lock.
  obtain ⟨order, listed, owes, same⟩ := mem_outstanding.mp owed
  refine mem_outstanding.mpr ⟨statement.onOrder store.now order, List.mem_map_of_mem listed, ?_, ?_⟩
  · subst same
    exact owes_onOrder owes unguarded store.now
  · rw [debtOf_onOrder, same]

/-- A debt stays on its driver's books. -/
theorem Booked.execute {store : Store} {driver : String} {debt : Debt}
    (booked : Booked store driver debt) (statement : Statement) :
    Booked (statement.execute store) driver debt := by
  -- The order stays its driver's, and the debt what it was.
  obtain ⟨order, listed, whose, same⟩ := booked
  exact ⟨_, List.mem_map_of_mem listed, (onOrder_same statement store.now order).1.trans whose,
    (debtOf_onOrder statement store.now order).trans same⟩

/-- Outside the services an order's debt stays as it is. -/
theorem happen_debt (event : PaymentOutside) (store : Store) :
    ∃ change : Order → Order, (event.happen store).orders = store.orders.map change ∧
      ∀ order : Order, order.SameDebt (change order) := by
  -- An order that is left alone keeps its debt.
  have same : ∀ order : Order, order.SameDebt order := fun _ => ⟨rfl, rfl, rfl, rfl, rfl, rfl⟩
  cases event with
  | settle | decline | wait => exact ⟨id, (List.map_id _).symm, same⟩
  | updateOrderStatus orderId rateOf status waited =>
    refine ⟨_, rfl, fun order => ?_⟩
    split
    · exact order.statusUpdated_debt rateOf status waited
    · exact same order
  | confirmDelivery orderId rateOf waited filledBy =>
    refine ⟨_, rfl, fun order => ?_⟩
    split
    · exact order.deliveryConfirmed_debt rateOf waited filledBy
    · exact same order

/-- So what a driver owes stays as it is. -/
theorem happen_outstanding {event : PaymentOutside} {store : Store} {driver : String} {debt : Debt}
    (owed : debt ∈ outstanding store driver) : debt ∈ outstanding (event.happen store) driver := by
  -- The dispatch changes the row in no column that a debt is read from.
  obtain ⟨change, orders, keeps⟩ := happen_debt event store
  obtain ⟨order, listed, owes, same⟩ := mem_outstanding.mp owed
  refine mem_outstanding.mpr ⟨change order, orders ▸ List.mem_map_of_mem listed, ?_, ?_⟩
  · rw [((keeps order).owes driver).1, owes]
  · rw [((keeps order).owes driver).2, same]

/-- And so do a driver's books. -/
theorem Booked.happen {store : Store} {driver : String} {debt : Debt}
    (booked : Booked store driver debt) (event : PaymentOutside) :
    Booked (event.happen store) driver debt := by
  -- The order stays assigned to the driver.
  obtain ⟨change, orders, keeps⟩ := happen_debt event store
  obtain ⟨order, listed, whose, same⟩ := booked
  exact ⟨change order, orders ▸ List.mem_map_of_mem listed, (keeps order).assignedTo.trans whose,
    ((keeps order).owes driver).2.trans same⟩

/-- No statement changes whose a settlement is, or how much it asks for. -/
theorem onSettlement_same (statement : Statement) (now : Nat) (row : CashSettlement) :
    (statement.onSettlement now row).id = row.id ∧
      (statement.onSettlement now row).driverUsername = row.driverUsername ∧
      (statement.onSettlement now row).amount = row.amount ∧
      (statement.onSettlement now row).currency = row.currency := by
  -- A verdict writes the status, the reason and when it was.
  cases statement with
  | failSettlement | commitSettlement =>
    simp only [Statement.onSettlement]
    split <;> exact ⟨rfl, rfl, rfl, rfl⟩
  | _ => exact ⟨rfl, rfl, rfl, rfl⟩

/-- A settlement keeps its status under every statement that does not write under its lock. -/
theorem onSettlement_status {statement : Statement} {row : CashSettlement}
    (unguarded : .settlement row.id ∉ statement.guards) (now : Nat) :
    (statement.onSettlement now row).status = row.status := by
  -- Only a verdict of its own settlement writes its status.
  cases statement with
  | failSettlement id reason =>
    have other : row.id ≠ id := by simpa [Statement.guards] using unguarded
    simp [Statement.onSettlement, other]
  | commitSettlement settlement status transactionId reason cleared =>
    have other : row.id ≠ settlement.id := by simpa [Statement.guards] using unguarded
    simp [Statement.onSettlement, other]
  | _ => rfl

/-- A settlement after a statement is a rewritten one, or the one that was inserted. -/
theorem mem_execute_settlements {store : Store} {statement : Statement} {next : CashSettlement} :
    next ∈ (statement.execute store).settlements ↔
      (∃ row ∈ store.settlements, statement.onSettlement store.now row = next) ∨
        statement = .insertSettlement next := by
  -- One statement inserts into this table, and two rewrite it.
  cases statement <;> simp [Statement.execute, eq_comm]

end Payment

end Freight
