import Freight.Payment.Debts

/-! Queuing a driver's earning, with what they owe in cash commission netted off it. -/

namespace Freight.Payment

/-- A request joined with its order, as reconciliation read it. -/
structure Found where
  request : PaymentRequest
  assignedTo : Option String
  driverNet : Option ℚ

/-- The earning a payout is queued for. -/
structure Earning where
  request : PaymentRequest
  driver : String
  msisdn : String
  /-- `Number(request.driver_net)`. -/
  gross : ℚ

/-- A run of `queueDriverPayout`, by its next statement. -/
inductive PayoutCall where
  /-- About to take a client from the pool, and to begin. -/
  | connect (earning : Earning)
  /-- About to insert the payout, unless the collection has one. -/
  | insertPayout (earning : Earning)
  /-- `recoverCashOwed`: about to read and lock the driver's debts. -/
  | lockDebts (earning : Earning) (payoutId reference : Nat)
  /-- About to mark the debts the payout clears. -/
  | clearDebts (earning : Earning) (payoutId reference : Nat) (cleared locked : List Debt)
  /-- About to write what was withheld. -/
  | updatePayout (earning : Earning) (payoutId reference : Nat) (cleared locked : List Debt)
  | commit (earning : Earning) (payoutId reference : Nat) (cleared locked : List Debt)
  /-- The catch block, still holding what the transaction locked. -/
  | rollback (locked : List Lock)
  /-- About to audit what was recovered. -/
  | auditRecovered (earning : Earning)
  | done
  /-- The pool had no client to give: the one failure that is not swallowed. -/
  | thrown

/-- Where queuing begins: nothing is queued without a driver, a net and a payable number. -/
def queueDriverPayout (cfg : Config) (found : Found) : PayoutCall :=
  match present found.assignedTo, found.driverNet with
  | some driver, some net =>
    match toMsisdn cfg.normalizePhone driver with
    -- Logged, and held.
    | none => .done
    | some msisdn =>
      .connect { request := found.request, driver := driver, msisdn := msisdn, gross := net }
  | _, _ => .done

/-- The payout that is committed, with what was withheld taken off it. -/
def committedPayout (cfg : Config) (now : Nat) (earning : Earning) (payoutId reference : Nat)
    (cleared : List Debt) : DriverPayout :=
  { queuedPayout payoutId reference (some earning.request.orderId) (some earning.request.id)
      earning.driver earning.msisdn earning.gross earning.request.currency
      (now + cfg.payoutDelayMinutes * minute) with
    amount := earning.gross - totalFee cleared
    cashRecovered := some (totalFee cleared) }

/-- The lock on a debt's order. -/
def Debt.lock (debt : Debt) : Lock := .order debt.orderId

/-- What a payout transaction has locked once it has read the debts. -/
def payoutLocks (earning : Earning) (locked : List Debt) : List Lock :=
  .payoutFor earning.request.id :: locked.map Debt.lock

/-- The statement the queuing of a payout is at, and where it stands afterwards. -/
def PayoutCall.next (cfg : Config) (store : Store) (answer : Answer) :
    PayoutCall → Statement × PayoutCall
  | .connect earning => if answer.fails then (.nothing, .thrown) else (.nothing, .insertPayout earning)
  | .insertPayout earning =>
    if answer.fails then (.nothing, .rollback [])
    -- `ON CONFLICT DO NOTHING`: a payout for this collection already exists.
    else if store.payouts.any fun payout => payout.paymentRequestId = some earning.request.id then
      (.nothing, .rollback [])
    else (.insertPayout earning.request.id, .lockDebts earning store.nextId store.nextId)
  | .lockDebts earning payoutId reference =>
    if answer.fails then (.nothing, .rollback (payoutLocks earning []))
    else
      let ceiling := earning.gross * cfg.cashRecoveryMaxShare
      -- Nothing can be taken, so nothing is read.
      if ceiling ≤ 0 then (.nothing, .updatePayout earning payoutId reference [] [])
      else
        let debts := outstanding store earning.driver
        let cleared := recoverLoop ceiling 0 debts
        (.lock (debts.map Debt.lock),
          if cleared = [] then .updatePayout earning payoutId reference [] debts
          else .clearDebts earning payoutId reference cleared debts)
  | .clearDebts earning payoutId reference cleared locked =>
    if answer.fails then (.nothing, .rollback (payoutLocks earning locked))
    else (.nothing, .updatePayout earning payoutId reference cleared locked)
  | .updatePayout earning payoutId reference cleared locked =>
    if answer.fails then (.nothing, .rollback (payoutLocks earning locked))
    else (.nothing, .commit earning payoutId reference cleared locked)
  | .commit earning payoutId reference cleared locked =>
    if answer.fails then (.nothing, .rollback (payoutLocks earning locked))
    else (.commitPayout (committedPayout cfg store.now earning payoutId reference cleared)
        (cleared.map Debt.orderId),
      if 0 < totalFee cleared then .auditRecovered earning else .done)
  | .rollback _ => (.nothing, .done)
  | .auditRecovered earning =>
    -- Audit writes swallow their own failures.
    (if answer.fails then .nothing
      else .audit { actionType := "DRIVER_CASH_RECOVERED", subject := earning.request.orderId,
                    username := "System" }, .done)
  | .done => (.nothing, .done)
  | .thrown => (.nothing, .thrown)

/-- What an open payout transaction keeps locked. -/
def PayoutCall.holds : PayoutCall → List Lock
  | .lockDebts earning _ _ => payoutLocks earning []
  | .clearDebts earning _ _ _ locked | .updatePayout earning _ _ _ locked
  | .commit earning _ _ _ locked => payoutLocks earning locked
  | .rollback locked => locked
  | .connect _ | .insertPayout _ | .auditRecovered _ | .done | .thrown => []

end Freight.Payment
