import Freight.Payment.Reconcile

/-! A driver paying their cash commission from their own phone. -/

namespace Freight.Payment

/-- How much a driver asks to pay. -/
inductive Asked where
  /-- No amount was named. -/
  | everything
  | sum (amount : ℚ)
  | notANumber
  deriving DecidableEq

/-- A settlement that has passed every check. -/
structure Raised where
  driver : String
  msisdn : String
  amount : ℚ
  currency : Option Text

/-- What raising a settlement returns. -/
structure SettlementRaised where
  reference : Nat
  amount : ℚ
  reused : Bool
  deriving DecidableEq

/-- A run of `requestCashSettlement`, by its next statement. -/
inductive SettlementRequestCall where
  /-- `cashOwedBy`: about to read the debts. -/
  | selectDebts (driver : String) (asked : Asked)
  /-- About to look for a prompt in flight. -/
  | selectPending (raised : Raised)
  /-- About to write the settlement row. -/
  | insertSettlement (raised : Raised)
  /-- About to call MTN. -/
  | requestToPay (settlementId reference : Nat) (raised : Raised) (currency : Text)
  /-- In the catch block. -/
  | refuse (settlementId : Nat) (reason : String)
  | done (outcome : Outcome SettlementRaised)

/-- The amount a driver is to be charged: everything by default, and never more than is owed. -/
def settlementAmount (owed : CashOwed) (asked : Asked) : Except PaymentError ℚ :=
  let invalid : PaymentError :=
    { code := "CASH_SETTLE_INVALID_AMOUNT", status := 400, message := "Enter how much you are paying." }
  match (match asked with
    | .everything => some owed.total
    | .sum amount => some amount
    | .notANumber => none) with
  | none => .error invalid
  | some requested =>
    if requested ≤ 0 then .error invalid
    -- A hundredth more than is owed is let through.
    else if owed.total + 1 / 100 < requested then
      .error { code := "CASH_SETTLE_OVER_OWED", status := 400,
               message := "You cannot pay more than you owe here." }
    else .ok requested

/-- The settlement a driver's debts and wishes come to. -/
def raise (cfg : Config) (owed : CashOwed) (driver : String) (asked : Asked) :
    Except PaymentError Raised :=
  if owed.total ≤ 0 then
    .error { code := "CASH_NOTHING_OWED", status := 409,
             message := "You have no commission outstanding." }
  -- A debt in two currencies cannot be paid with one prompt.
  else if 1 < owed.currencies.length then
    .error { code := "CASH_SETTLE_MIXED_CURRENCY", status := 409, message :=
      "Your outstanding commission is in more than one currency, so it cannot be paid in one prompt. Hand it to dispatch instead." }
  else match settlementAmount owed asked with
    | .error refusal => .error refusal
    | .ok requested =>
      match toMsisdn cfg.normalizePhone driver with
      | none =>
        .error { code := "PAYMENT_INVALID_NUMBER", status := 400,
                 message := "Your account has no valid mobile number." }
      | some msisdn =>
        if canReceiveMomoPrompt cfg.normalizePhone driver then
          .ok { driver := driver, msisdn := msisdn, amount := requested, currency := owed.currency }
        else
          .error { code := "PAYMENT_WRONG_NETWORK", status := 400, message :=
            "Your number is not an MTN line, so it cannot receive a MoMo prompt. Hand the commission to dispatch instead." }

/-- An amount that passes is positive, at most what is owed up to a cent, and what was asked. -/
theorem settlementAmount_ok {owed : CashOwed} {asked : Asked} {amount : ℚ}
    (passes : settlementAmount owed asked = .ok amount) : 0 < amount ∧ amount ≤ owed.total + 1 / 100 ∧
      (asked = .everything ∧ amount = owed.total ∨ asked = .sum amount) := by
  cases asked with
  | notANumber => cases passes
  | everything | sum =>
    simp only [settlementAmount] at passes
    split at passes
    · cases passes
    · -- What is left is above zero, and has to be within what is owed.
      rename_i positive
      split at passes
      · cases passes
      · rename_i within
        cases passes
        exact ⟨lt_of_not_ge positive, le_of_not_gt within, by simp⟩

/-- A settlement that passes is the driver's own, for the amount that passes, in what is owed. -/
theorem raise_ok {cfg : Config} {owed : CashOwed} {driver : String} {asked : Asked} {raised : Raised}
    (passes : raise cfg owed driver asked = .ok raised) : raised.driver = driver ∧
      raised.currency = owed.currency ∧ settlementAmount owed asked = .ok raised.amount := by
  simp only [raise] at passes
  split at passes
  · cases passes
  · split at passes
    · cases passes
    · split at passes
      · cases passes
      · -- The amount passes, and the number and its network are checked behind it.
        rename_i requested priced
        split at passes
        · cases passes
        · split at passes
          · cases passes
            exact ⟨rfl, rfl, priced⟩
          · cases passes

/-- A driver's unresolved settlement. -/
def Store.pendingSettlement (store : Store) (driver : String) : Option CashSettlement :=
  store.settlements.find? fun settlement =>
    settlement.driverUsername = driver ∧ settlement.status = .pending

/-- The settlement row, before MTN is called. -/
def newSettlement (store : Store) (raised : Raised) (currency : Text) : CashSettlement where
  id := store.nextId
  driverUsername := raised.driver
  reference := store.nextId
  payerMsisdn := raised.msisdn
  amount := raised.amount
  currency := currency

/-- The prompt MTN takes in for a settlement. -/
def commissionPrompt (reference : Nat) (raised : Raised) (currency : Text) : Prompt where
  reference := reference
  orderId := none
  msisdn := raised.msisdn
  amount := raised.amount
  currency := currency

/-- The statement a settlement request is at, and where it stands afterwards. -/
def SettlementRequestCall.next (cfg : Config) (store : Store) (answer : Answer) :
    SettlementRequestCall → Statement × SettlementRequestCall
  | .selectDebts driver asked =>
    if !cfg.collectionConfigured then
      (.nothing, .done (.thrown { code := "PAYMENTS_NOT_CONFIGURED", status := 503, message :=
        "Mobile money is not set up on this server. Hand the commission to dispatch instead." }))
    else if answer.fails then (.nothing, .done .failed)
    else match raise cfg (cashOwedBy cfg store driver) driver asked with
      | .error refusal => (.nothing, .done (.thrown refusal))
      | .ok raised => (.nothing, .selectPending raised)
  | .selectPending raised =>
    if answer.fails then (.nothing, .done .failed)
    else match store.pendingSettlement raised.driver with
      | some existing => (.nothing, .done (.returned
          { reference := existing.reference, amount := existing.amount, reused := true }))
      | none => (.nothing, .insertSettlement raised)
  | .insertSettlement raised =>
    match raised.currency with
    | none => (.nothing, .done (.thrown { code := "PAYMENT_NO_CURRENCY", status := 409, message :=
        "Those jobs have no currency recorded, so the amount cannot be charged. Hand the commission to dispatch instead." }))
    | some currency =>
      -- The index allows one pending settlement a driver.
      if answer.fails || (store.pendingSettlement raised.driver).isSome then (.nothing, .done .failed)
      else (.insertSettlement (newSettlement store raised currency),
        .requestToPay store.nextId store.nextId raised currency)
  | .requestToPay settlementId reference raised currency =>
    match resolveSettlementCurrency cfg.upper (some currency) cfg.momoCurrency with
    | .error _ => (.nothing, .refuse settlementId "currency refused")
    | .ok settled =>
      match answer.prompt with
      | .accepted => (.accept (commissionPrompt reference raised settled), .done (.returned
          { reference := reference, amount := raised.amount, reused := false }))
      | .lost => (.accept (commissionPrompt reference raised settled),
          .refuse settlementId "MoMo request failed")
      | .unreachable => (.nothing, .refuse settlementId "MoMo request failed")
      | .refused _ => (.nothing, .refuse settlementId "MoMo refused the payment request")
  | .refuse settlementId reason =>
    if answer.fails then (.nothing, .done .failed)
    else (.failSettlement settlementId reason, .done (.thrown
      { code := "PAYMENT_REQUEST_REFUSED", status := 502, message :=
        "Could not reach mobile money. Try again, or hand the commission to dispatch." }))
  | .done outcome => (.nothing, .done outcome)

/-- A run of `reconcileCashSettlement`, by its next statement. -/
inductive SettlementCall where
  /-- About to read the settlement. -/
  | selectSettlement (reference : Nat)
  /-- About to ask MTN. -/
  | ask (settlement : CashSettlement)
  /-- About to begin, and to write MTN's verdict over the pending row. -/
  | claim (settlement : CashSettlement) (verdict : Verdict)
  /-- About to read the driver's debts, with no lock on them. -/
  | readDebts (settlement : CashSettlement) (verdict : Verdict)
  /-- About to mark the debts the payment covers. -/
  | clearDebts (settlement : CashSettlement) (verdict : Verdict) (cleared : List Debt)
  | commit (settlement : CashSettlement) (verdict : Verdict) (cleared : List Debt)
  /-- The catch block, still holding what the transaction locked. -/
  | rollback (locked : List Lock)
  /-- About to audit the settlement. -/
  | audit (settlement : CashSettlement)
  | done (outcome : Outcome Reconciled)

/-- MTN settled the sum that was asked for. -/
def settlementSucceeded (settlement : CashSettlement) (verdict : Verdict) : Bool :=
  verdict.status = .successful && amountMatches settlement.amount verdict

/-- Why a settlement failed, when it did. -/
def settlementFailure (settlement : CashSettlement) (verdict : Verdict) : Option String :=
  if settlementSucceeded settlement verdict then none
  else if amountMatches settlement.amount verdict then
    some (verdict.reason.getD verdict.status.word)
  else some "Settled another amount than was requested"

/-- What a settlement's transaction has locked once it has marked some debts. -/
def settlementLocks (settlement : CashSettlement) (cleared : List Debt) : List Lock :=
  .settlement settlement.id :: cleared.map Debt.lock

/-- The statement a settlement is at, and where it stands afterwards. -/
def SettlementCall.next (store : Store) (answer : Answer) :
    SettlementCall → Statement × SettlementCall
  | .selectSettlement reference =>
    if answer.fails then (.nothing, .done .failed)
    else match store.settlements.find? fun settlement => settlement.reference = reference with
      | none => (.nothing, .done (.returned { known := false }))
      | some settlement =>
        if settlement.status ≠ .pending then
          (.nothing, .done (.returned { known := true, status := statusWord settlement.status }))
        else (.nothing, .ask settlement)
  | .ask settlement =>
    match answer.verdict with
    | none => (.nothing, .done (.returned
        { known := true, status := "PENDING", unreachable := true }))
    | some verdict =>
      (.report settlement.reference,
        if verdict.status = .pending then .done (.returned { known := true, status := "PENDING" })
        else .claim settlement verdict)
  | .claim settlement verdict =>
    if answer.fails then (.nothing, .done .failed)
    else if store.settlements.any fun row => row.id = settlement.id && row.status = .pending then
      (.lock [.settlement settlement.id],
        if settlementSucceeded settlement verdict then .readDebts settlement verdict
        else .commit settlement verdict [])
    else (.lock [.settlement settlement.id], .done (.returned { known := true }))
  | .readDebts settlement verdict =>
    if answer.fails then (.nothing, .rollback (settlementLocks settlement []))
    else
      let cleared := settleLoop settlement.amount (outstanding store settlement.driverUsername)
      (.nothing, if cleared = [] then .commit settlement verdict []
        else .clearDebts settlement verdict cleared)
  | .clearDebts settlement verdict cleared =>
    if answer.fails then (.nothing, .rollback (settlementLocks settlement []))
    -- `WHERE id = ANY(cleared)`: whether the debts are still outstanding is not looked at again.
    else (.lock (cleared.map Debt.lock), .commit settlement verdict cleared)
  | .commit settlement verdict cleared =>
    if answer.fails then (.nothing, .rollback (settlementLocks settlement cleared))
    else
      let succeeded := settlementSucceeded settlement verdict
      (.commitSettlement settlement (if succeeded then .successful else .failed)
          verdict.transactionId (settlementFailure settlement verdict) (cleared.map Debt.orderId),
        if succeeded then .audit settlement
        else .done (.returned { known := true, status := "FAILED", changed := true }))
  | .rollback _ => (.nothing, .done .failed)
  | .audit settlement =>
    (if answer.fails then .nothing
      else .audit { actionType := "CASH_COMMISSION_SETTLED", subject := settlement.id,
                    username := settlement.driverUsername },
      .done (.returned { known := true, status := "SUCCESSFUL", changed := true }))
  | .done outcome => (.nothing, .done outcome)

/-- What an open settlement transaction keeps locked. -/
def SettlementCall.holds : SettlementCall → List Lock
  | .readDebts settlement _ | .clearDebts settlement _ _ => settlementLocks settlement []
  | .commit settlement _ cleared => settlementLocks settlement cleared
  | .rollback locked => locked
  | .selectSettlement _ | .ask _ | .claim _ _ | .audit _ | .done _ => []

end Freight.Payment
