import Mathlib.Data.List.Sort
import Freight.Payment.Store

/-! What drivers owe from cash fares, and how far an amount goes towards it. -/

namespace Freight.Payment

/-- One outstanding commission, as it was read. -/
structure Debt where
  orderId : Nat
  fee : ℚ
  currency : Option Text
  deriving DecidableEq

/-- `ORDER BY cash_collected_at ASC`: nulls come last. -/
def collectedBefore (first second : Order) : Bool :=
  match first.cashCollectedAt, second.cashCollectedAt with
  | _, none => true
  | none, some _ => false
  | some earlier, some later => earlier ≤ later

/-- A driver's cash order whose commission is still outstanding. -/
def owes (driver : String) (order : Order) : Bool :=
  order.assignedTo = some driver && order.cashOutstanding && 0 < orZero order.platformFee

/-- A debt, as it is read off the order. -/
def Debt.of (order : Order) : Debt where
  orderId := order.id
  fee := orZero order.platformFee
  currency := order.currency

/-- What a driver owes, oldest first: the rows both kinds of clearing read. -/
def outstanding (store : Store) (driver : String) : List Debt :=
  ((store.orders.filter (owes driver)).insertionSort fun first second =>
    collectedBefore first second).map Debt.of

/-- The sum of some debts. -/
def totalFee (debts : List Debt) : ℚ := (debts.map Debt.fee).sum

/-- What `cashOwedBy` reports. -/
structure CashOwed where
  total : ℚ
  currency : Option Text
  currencies : List Text
  jobs : List Debt
  deriving DecidableEq

/-- What a driver still owes the platform from cash fares. -/
def cashOwedBy (cfg : Config) (store : Store) (driver : String) : CashOwed where
  total := totalFee (outstanding store driver)
  currency := soleCurrency cfg.upper ((outstanding store driver).map Debt.currency)
  currencies := distinctCurrencies cfg.upper ((outstanding store driver).map Debt.currency)
  jobs := outstanding store driver

/-- `recoverCashOwed`'s loop: whole jobs, oldest first, until one does not fit under the ceiling. -/
def recoverLoop (ceiling : ℚ) : ℚ → List Debt → List Debt
  | _, [] => []
  | recovered, debt :: rest =>
    -- Stop at the first that does not fit, never skip ahead to a smaller one.
    if ceiling < recovered + debt.fee then []
    else debt :: recoverLoop ceiling (recovered + debt.fee) rest

/-- `reconcileCashSettlement`'s loop: whole jobs, oldest first, off what was paid. -/
def settleLoop : ℚ → List Debt → List Debt
  | _, [] => []
  | remaining, debt :: rest =>
    if remaining < debt.fee then [] else debt :: settleLoop (remaining - debt.fee) rest

/-- A debt that is read is some order's, outstanding in its driver's name. -/
theorem mem_outstanding {store : Store} {driver : String} {debt : Debt} :
    debt ∈ outstanding store driver ↔ ∃ order ∈ store.orders, owes driver order ∧ Debt.of order = debt := by
  -- The query's WHERE, and an ORDER BY that drops nothing.
  simp [outstanding, List.mem_insertionSort, and_assoc]

/-- Netting takes a prefix of the debts. -/
theorem recoverLoop_prefix (ceiling recovered : ℚ) (debts : List Debt) :
    recoverLoop ceiling recovered debts <+: debts := by
  -- Debt by debt, the loop takes the next or stops.
  induction debts generalizing recovered with
  | nil => exact List.prefix_refl _
  | cons debt rest ih =>
    simp only [recoverLoop]
    split
    · exact List.nil_prefix
    · exact List.cons_prefix_cons.mpr ⟨rfl, ih _⟩

/-- A settlement clears a prefix of the debts. -/
theorem settleLoop_prefix (remaining : ℚ) (debts : List Debt) :
    settleLoop remaining debts <+: debts := by
  -- Debt by debt, the loop takes the next or stops.
  induction debts generalizing remaining with
  | nil => exact List.prefix_refl _
  | cons debt rest ih =>
    simp only [settleLoop]
    split
    · exact List.nil_prefix
    · exact List.cons_prefix_cons.mpr ⟨rfl, ih _⟩

end Freight.Payment
