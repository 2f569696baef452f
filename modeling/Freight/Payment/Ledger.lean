import Mathlib.Algebra.BigOperators.Group.List.Basic
import Mathlib.Algebra.Order.BigOperators.Group.List
import Mathlib.Tactic.Linarith
import Freight.Payment.Progress
import Freight.Payment.UnderLock

/-! What has been taken from a driver, what was cleared for it, and what they still owe. -/

namespace Freight.Payment

/-- Cleared by netting it off a payout. -/
def Channel.byPayout : Channel → Bool
  | .payout _ => true
  | _ => false

/-- Cleared by the driver paying from their phone. -/
def Channel.bySettlement : Channel → Bool
  | .settlement _ => true
  | _ => false

/-- Cleared by dispatch. -/
def Channel.byDispatch : Channel → Bool
  | .dispatch => true
  | _ => false

/-- The entries of one driver's orders. -/
def clearingsOf (driver : String) (clearings : List Clearing) : List Clearing :=
  clearings.filter fun entry => entry.driver = some driver

/-- The commissions of a driver that some channel has cleared. -/
def clearedFees (driver : String) (through : Channel → Bool) (clearings : List Clearing) : ℚ :=
  (((clearingsOf driver clearings).filter fun entry => through entry.channel).map Clearing.fee).sum

/-- What was withheld from a driver's payouts. -/
def withheld (driver : String) (payouts : List DriverPayout) : ℚ :=
  ((payouts.filter fun payout => payout.driverUsername = driver).map fun payout =>
    orZero payout.cashRecovered).sum

/-- What a driver's successful settlements came to. -/
def paidIn (driver : String) (settlements : List CashSettlement) : ℚ :=
  ((settlements.filter fun row => row.driverUsername = driver && row.status = .successful).map
    CashSettlement.amount).sum

/-- All that was taken from a driver, through every channel. -/
def taken (driver : String) (store : Store) : ℚ :=
  withheld driver store.payouts + paidIn driver store.settlements +
    clearedFees driver Channel.byDispatch store.clearings

/-- What a driver still owes. -/
def stillOwed (driver : String) (store : Store) : ℚ := totalFee (outstanding store driver)

/-- What settlements were paid beyond the commissions they cleared: the rest of part payments. -/
def leftOver (driver : String) (store : Store) : ℚ :=
  paidIn driver store.settlements - clearedFees driver Channel.bySettlement store.clearings

/-- What an order adds to what a driver owes. -/
def owedFee (driver : String) (order : Order) : ℚ :=
  if owes driver order then orZero order.platformFee else 0

/-- Only a positive commission is ever owed. -/
theorem owedFee_nonneg (driver : String) (order : Order) : 0 ≤ owedFee driver order := by
  -- What is owed is owed for a positive fee.
  simp only [owedFee]
  split
  · rename_i owed
    simp only [owes, Bool.and_eq_true, decide_eq_true_eq] at owed
    exact owed.2.le
  · exact le_refl 0

/-- What is owed is owed order by order. -/
theorem stillOwed_eq (driver : String) (store : Store) :
    stillOwed driver store = (store.orders.map (owedFee driver)).sum := by
  -- The order in which debts were collected does not matter to their sum.
  have sorted := (((store.orders.filter (owes driver)).perm_insertionSort fun first second =>
    collectedBefore first second = true).map fun order => orZero order.platformFee).sum_eq
  have fees : totalFee (outstanding store driver) =
      (((store.orders.filter (owes driver)).insertionSort fun first second =>
        collectedBefore first second).map fun order => orZero order.platformFee).sum := by
    simp [totalFee, outstanding, Function.comp_def, Debt.of]
  rw [stillOwed, fees, sorted]
  induction store.orders with
  | nil => rfl
  | cons order rest ih =>
    by_cases owed : owes driver order = true
    · simp [owed, owedFee, ih]
    · simp [owed, owedFee, ih]

/-- The channels are all there are. -/
theorem clearedFees_split (driver : String) (clearings : List Clearing) :
    clearedFees driver (fun _ => true) clearings =
      clearedFees driver Channel.byPayout clearings +
        clearedFees driver Channel.bySettlement clearings +
        clearedFees driver Channel.byDispatch clearings := by
  -- Entry by entry, each has gone through one of the three.
  simp only [clearedFees]
  induction clearingsOf driver clearings with
  | nil => simp
  | cons entry rest ih =>
    simp only [List.filter_true] at ih
    cases channel : entry.channel <;>
      simp [channel, Channel.byPayout, Channel.bySettlement, Channel.byDispatch, ih] <;> ring

/-- Entries add up. -/
theorem clearedFees_append (driver : String) (through : Channel → Bool) (old new : List Clearing) :
    clearedFees driver through (old ++ new) =
      clearedFees driver through old + clearedFees driver through new := by
  -- It is a sum over the entries.
  simp [clearedFees, clearingsOf]

/-- A statement takes no more off what is owed than what it writes under lock. -/
theorem stillOwed_execute (driver : String) (statement : Statement) (store : Store) :
    stillOwed driver store ≤ stillOwed driver (statement.execute store) +
      ((store.orders.filter fun order => .order order.id ∈ statement.guards).map
        (owedFee driver)).sum := by
  rw [stillOwed_eq, stillOwed_eq, execute_orders, List.map_map]
  induction store.orders with
  | nil => simp
  | cons order rest ih =>
    simp only [List.map_cons, List.sum_cons, Function.comp_apply, List.filter_cons] at ih ⊢
    have kept := owedFee_nonneg driver (statement.onOrder store.now order)
    by_cases guarded : .order order.id ∈ statement.guards
    · simp only [guarded, decide_true, if_true, List.map_cons, List.sum_cons]
      linarith
    · simp only [guarded, decide_false, Bool.false_eq_true, if_false]
      -- An order that is not written to goes on owing what it owed.
      have same : owedFee driver order ≤ owedFee driver (statement.onOrder store.now order) := by
        by_cases owed : owes driver order = true
        · have fee := (onOrder_same statement store.now order).2.2.2.1
          simp [owedFee, owed, owes_onOrder owed guarded store.now, fee]
        · simpa [owedFee, owed] using kept
      linarith

section
variable {store : Store} {driver : String} {cleared : List Debt}

/-- The orders of some debts on a driver's books are that driver's, and carry those debts. -/
theorem orders_of_booked (distinct : (store.orders.map Order.id).Nodup)
    (once : (cleared.map Debt.orderId).Nodup) (booked : ∀ debt ∈ cleared, Booked store driver debt) :
    (∀ order ∈ store.orders, order.id ∈ cleared.map Debt.orderId →
      order.assignedTo = some driver ∧ Debt.of order ∈ cleared) ∧
    ((store.orders.filter fun order => order.id ∈ cleared.map Debt.orderId).map Debt.of).Perm
      cleared := by
  have own : ∀ order ∈ store.orders, order.id ∈ cleared.map Debt.orderId →
      order.assignedTo = some driver ∧ Debt.of order ∈ cleared := by
    intro order listed named
    obtain ⟨debt, member, same⟩ := List.mem_map.mp named
    obtain ⟨other, also, whose, rfl⟩ := booked debt member
    -- The id names one order.
    have one := List.inj_on_of_nodup_map distinct also listed same
    exact one ▸ ⟨whose, member⟩
  refine ⟨own, (List.perm_ext_iff_of_nodup ?_ (List.Nodup.of_map _ once)).mpr fun debt => ?_⟩
  · refine List.Nodup.of_map Debt.orderId ?_
    rw [List.map_map]
    exact distinct.sublist (List.filter_sublist.map _)
  · simp only [List.mem_map, List.mem_filter, decide_eq_true_eq]
    constructor
    · rintro ⟨order, ⟨listed, debt, member, same⟩, rfl⟩
      exact (own order listed (List.mem_map.mpr ⟨debt, member, same⟩)).2
    · intro member
      obtain ⟨order, listed, -, rfl⟩ := booked debt member
      exact ⟨order, ⟨listed, _, member, rfl⟩, rfl⟩

/-- The ledger entries of some debts come to their fees, in their own driver's name alone. -/
theorem clearedFees_booked (distinct : (store.orders.map Order.id).Nodup)
    (once : (cleared.map Debt.orderId).Nodup) (booked : ∀ debt ∈ cleared, Booked store driver debt)
    (other : String) (through : Channel → Bool) (channel : Channel) (charged : Option Text) :
    clearedFees other through ((store.orders.filter fun order =>
        order.id ∈ cleared.map Debt.orderId).map (clearing channel charged)) =
      if driver = other ∧ through channel = true then totalFee cleared else 0 := by
  obtain ⟨own, same⟩ := orders_of_booked distinct once booked
  -- The orders that are cleared are all of one driver.
  have whose : ∀ order ∈ store.orders.filter fun order => order.id ∈ cleared.map Debt.orderId,
      order.assignedTo = some driver := by
    intro order member
    simp only [List.mem_filter, decide_eq_true_eq] at member
    exact (own order member.1 member.2).1
  have fees : ((store.orders.filter fun order => order.id ∈ cleared.map Debt.orderId).map
      fun order => orZero order.platformFee).sum = totalFee cleared := by
    rw [totalFee, ← (same.map Debt.fee).sum_eq, List.map_map]
    rfl
  rw [← fees]
  generalize (store.orders.filter fun order => order.id ∈ cleared.map Debt.orderId) = rows at whose
  clear fees same own
  -- Entry by entry, the fee counts in that driver's name and channel, and in no other.
  induction rows with
  | nil => simp [clearedFees, clearingsOf]
  | cons order rest ih =>
    have mine := whose order List.mem_cons_self
    have step := ih fun other member => whose other (List.mem_cons_of_mem _ member)
    simp only [clearedFees, clearingsOf, List.map_cons, List.filter_cons] at step ⊢
    by_cases same : driver = other <;> by_cases goes : through channel = true <;>
      simp_all [clearing]

/-- Outstanding debts that are cleared come to what their orders added to what is owed. -/
theorem owedFee_cleared (distinct : (store.orders.map Order.id).Nodup)
    (once : (cleared.map Debt.orderId).Nodup) (owed : ∀ debt ∈ cleared, debt ∈ outstanding store driver)
    (other : String) :
    ((store.orders.filter fun order => order.id ∈ cleared.map Debt.orderId).map
        (owedFee other)).sum = if driver = other then totalFee cleared else 0 := by
  obtain ⟨own, same⟩ := orders_of_booked distinct once fun debt member =>
    booked_of_outstanding (owed debt member)
  -- Each order that is cleared was still owed, so it counted.
  have owing : ∀ order ∈ store.orders, order.id ∈ cleared.map Debt.orderId → owes driver order := by
    intro order listed named
    obtain ⟨row, also, owes, debt⟩ := mem_outstanding.mp (owed _ (own order listed named).2)
    have one := List.inj_on_of_nodup_map distinct also listed (congrArg Debt.orderId debt)
    exact one ▸ owes
  have each : (store.orders.filter fun order => order.id ∈ cleared.map Debt.orderId).map
      (owedFee other) = (store.orders.filter fun order => order.id ∈ cleared.map Debt.orderId).map
      fun order => if driver = other then (Debt.of order).fee else 0 := by
    refine List.map_congr_left fun order member => ?_
    simp only [List.mem_filter, decide_eq_true_eq] at member
    have owes := owing order member.1 member.2
    by_cases same : driver = other
    · subst same
      simp [owedFee, owes, Debt.of]
    · have whose := (own order member.1 member.2).1
      simp [owedFee, Payment.owes, whose, same]
  rw [each]
  by_cases mine : driver = other
  · simp only [mine, if_true]
    rw [totalFee, ← (same.map Debt.fee).sum_eq, List.map_map]
    rfl
  · simp [mine]

/-- Clearing outstanding debts takes their fees, and no more, off what their driver owes. -/
theorem stillOwed_clear (distinct : (store.orders.map Order.id).Nodup)
    (once : (cleared.map Debt.orderId).Nodup) (owed : ∀ debt ∈ cleared, debt ∈ outstanding store driver)
    (statement : Statement)
    (writes : ∀ id, .order id ∈ statement.guards ↔ id ∈ cleared.map Debt.orderId) (other : String) :
    stillOwed other store ≤ stillOwed other (statement.execute store) +
      if driver = other then totalFee cleared else 0 := by
  -- What falls away is what was owed on the orders that the statement writes.
  have drop := stillOwed_execute other statement store
  simp only [writes] at drop
  rwa [owedFee_cleared distinct once owed other] at drop

/-- An outstanding debt's order is not settled. -/
theorem unsettled_of_outstanding {debt : Debt} (owed : debt ∈ outstanding store driver) :
    ∃ order ∈ store.orders, order.id = debt.orderId ∧ order.cashSettledAt = none := by
  -- What has been settled is not owed.
  obtain ⟨order, listed, owes, same⟩ := mem_outstanding.mp owed
  simp only [Payment.owes, Order.cashOutstanding, Bool.and_eq_true, Option.isNone_iff_eq_none] at owes
  exact ⟨order, listed, congrArg Debt.orderId same, owes.1.2.2⟩

end

/-- No statement makes a settled commission outstanding again. -/
theorem settled_onOrder {statement : Statement} {now : Nat} {row : Order}
    (settled : row.cashSettledAt.isSome) : (statement.onOrder now row).cashSettledAt.isSome := by
  -- The column is only ever written with a time.
  cases statement with
  | stampPayment | stampPaid | takeCash | commitPayout | commitSettlement | settleCash =>
    simp only [Statement.onOrder]
    split <;> simp [settled]
  | _ => exact settled

/-- The commissions a statement clears are settled by it. -/
theorem settled_of_clears {statement : Statement} {store : Store}
    (distinct : (store.orders.map Order.id).Nodup) {entry : Clearing}
    (clears : entry ∈ statement.clears store.orders) {row : Order} (listed : row ∈ store.orders)
    (own : row.id = entry.orderId) : (statement.onOrder store.now row).cashSettledAt.isSome := by
  cases statement with
  | commitPayout payout cleared | commitSettlement settlement status transactionId reason cleared =>
    simp only [Statement.clears, List.mem_map, List.mem_filter, decide_eq_true_eq] at clears
    obtain ⟨order, ⟨-, named⟩, rfl⟩ := clears
    have marked : row.id ∈ cleared := own ▸ named
    simp [Statement.onOrder, marked]
  | settleCash id =>
    simp only [Statement.clears, List.mem_map, List.mem_filter, decide_eq_true_eq] at clears
    obtain ⟨order, ⟨also, same, outstanding⟩, rfl⟩ := clears
    -- The order that is handed in is the row itself, for ids are not repeated.
    have one : order = row := List.inj_on_of_nodup_map distinct also listed own.symm
    simp [Statement.onOrder, ← one, same, outstanding]
  | _ => cases clears

/-- A statement clears each order once. -/
theorem clears_distinct {store : Store} (distinct : (store.orders.map Order.id).Nodup)
    (statement : Statement) : ((statement.clears store.orders).map Clearing.orderId).Nodup := by
  -- It clears orders of the store, which have an id each.
  cases statement with
  | commitPayout | commitSettlement | settleCash =>
    simp only [Statement.clears, List.map_map]
    exact distinct.sublist (List.filter_sublist.map _)
  | _ => exact List.nodup_nil

/-- What a row adds to what a driver has paid in. -/
def paidFee (driver : String) (row : CashSettlement) : ℚ :=
  if row.driverUsername = driver ∧ row.status = .successful then row.amount else 0

/-- What was paid in was paid in row by row. -/
theorem paidIn_eq (driver : String) (settlements : List CashSettlement) :
    paidIn driver settlements = (settlements.map (paidFee driver)).sum := by
  -- Row by row, a settlement that failed or is another's counts for nothing.
  simp only [paidIn]
  induction settlements with
  | nil => rfl
  | cons row rest ih =>
    by_cases mine : row.driverUsername = driver <;> by_cases done : row.status = .successful <;>
      simp [mine, done, paidFee, ih]

/-- What has been paid in never grows under a statement that settles no commission. -/
theorem paidIn_execute {statement : Statement} {store : Store} (driver : String)
    (positive : ∀ row ∈ store.settlements, 0 < row.amount)
    (other : ∀ settlement status transactionId reason cleared,
      statement ≠ .commitSettlement settlement status transactionId reason cleared)
    (pending : ∀ row, statement = .insertSettlement row → row.status = .pending) :
    paidIn driver (statement.execute store).settlements ≤ paidIn driver store.settlements := by
  -- A settlement that fails takes away what it counted, and the others count as before.
  have each : ((store.settlements.map (statement.onSettlement store.now)).map (paidFee driver)).sum ≤
      (store.settlements.map (paidFee driver)).sum := by
    rw [List.map_map]
    refine List.sum_le_sum fun row listed => ?_
    cases statement with
    | failSettlement id reason =>
      simp only [Function.comp_apply, Statement.onSettlement]
      split
      · have nonneg : 0 ≤ paidFee driver row := by
          simp only [paidFee]
          split
          · exact (positive row listed).le
          · exact le_refl 0
        simpa [paidFee] using nonneg
      · exact le_refl _
    | commitSettlement settlement status transactionId reason cleared =>
      exact absurd rfl (other settlement status transactionId reason cleared)
    | _ => exact le_refl _
  rw [paidIn_eq, paidIn_eq]
  cases statement with
  | insertSettlement row =>
    have rows : ((Statement.insertSettlement row).execute store).settlements =
        store.settlements.map ((Statement.insertSettlement row).onSettlement store.now) ++ [row] := rfl
    -- A new settlement is pending, and counts for nothing yet.
    have nothing : paidFee driver row = 0 := by simp [paidFee, pending row rfl]
    simpa [rows, nothing] using each
  | _ => simpa [Statement.execute] using each

/-- A settlement that commits pays in its amount, if it succeeded. -/
theorem paidIn_commit {store : Store} (driver : String)
    (distinct : (store.settlements.map CashSettlement.id).Nodup) {settling : Settling}
    (recorded : settling.Recorded store) (claimed : settling.claimed = true) (status : RequestStatus)
    (transactionId reason : Option String) (cleared : List Nat) :
    paidIn driver ((Statement.commitSettlement settling.settlement status transactionId reason
        cleared).execute store).settlements = paidIn driver store.settlements +
      if settling.settlement.driverUsername = driver ∧ status = .successful then
        settling.settlement.amount else 0 := by
  obtain ⟨row, listed, id, whose, amount, -, pending⟩ := recorded.row
  have waits := pending claimed
  have rows : ((Statement.commitSettlement settling.settlement status transactionId reason
      cleared).execute store).settlements = store.settlements.map
        ((Statement.commitSettlement settling.settlement status transactionId reason
          cleared).onSettlement store.now) := List.append_nil _
  -- One row is written: those before and after it have other ids.
  obtain ⟨before, after, split⟩ := List.append_of_mem listed
  rw [split, List.map_append, List.map_cons] at distinct
  have apart := List.nodup_middle.mp distinct
  rw [List.nodup_cons, List.mem_append, not_or] at apart
  have others : ∀ part : List CashSettlement, row.id ∉ part.map CashSettlement.id →
      part.map ((Statement.commitSettlement settling.settlement status transactionId reason
        cleared).onSettlement store.now) = part := by
    intro part absent
    refine (List.map_congr_left fun other member => ?_).trans (List.map_id _)
    have differs : other.id ≠ settling.settlement.id := fun same =>
      absent (List.mem_map.mpr ⟨other, member, same.trans id.symm⟩)
    simp [Statement.onSettlement, differs]
  rw [paidIn_eq, paidIn_eq, rows, split, List.map_append, List.map_cons, others _ apart.1.1,
    others _ apart.1.2]
  have before_ : paidFee driver row = 0 := by simp [paidFee, waits]
  have after_ : paidFee driver ((Statement.commitSettlement settling.settlement status transactionId
      reason cleared).onSettlement store.now row) =
      if settling.settlement.driverUsername = driver ∧ status = .successful then
        settling.settlement.amount else 0 := by
    simp [Statement.onSettlement, id, waits, paidFee, whose, amount]
  simp only [List.map_append, List.map_cons, List.sum_append, List.sum_cons, before_, after_]
  ring

/-- The driver of the order at the door. -/
def aDriver : String := "+250788000001"

/-- A fare that driver has taken in cash, and still owes the commission of. -/
def tookCash (id : Nat) : Order :=
  { atTheDoor with
    id := id
    paymentStatus := .paid
    paymentMethod := some .cash
    cashCollectedAt := some id }

/-- The driver pays from their phone, and MTN moves the money. -/
def paysCommission (call : Nat) (asked : Asked) (amount : ℚ) : List PaymentEvent :=
  [.call (.requestCashSettlement aDriver asked), .run call {}, .run call {}, .run call {},
    .run call {}, .outside (.settle 1 amount ['R', 'W', 'F'])]

/-- The settlement is read, asked about, claimed, and the debts it covers are read. -/
def readsDebts (call : Nat) (amount : ℚ) : List PaymentEvent :=
  [.call (.reconcileCashSettlement 1), .run call {},
    .run call { verdict := some { collected with amount := some amount } }, .run call {}, .run call {}]

/-- The fare at the door is paid by prompt, and its payout queued with the debts netted off it. -/
def paysFare (asks settles : Nat) : List PaymentEvent :=
  [.call (.requestPaymentForOrder 1 none none), .run asks {}, .run asks {}, .run asks {}, .run asks {},
    .run asks {}, .outside (.settle 2 1000 ['R', 'W', 'F']), .call (.reconcilePaymentRequest 2),
    .run settles {}, .run settles { verdict := some collected }, .run settles {}, .run settles {},
    .run settles {}, .run settles {}, .run settles {}, .run settles {}, .run settles {},
    .run settles {}]

end Freight.Payment
