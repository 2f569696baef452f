import Freight.Library.Pool
import Freight.Order.Money
import Freight.Store.Config

/-! The rows the payment services share, MTN's prompts, and what one statement does to them. -/

namespace Freight

/-- A cash job whose commission has not been settled. -/
def Order.cashOutstanding (order : Order) : Bool :=
  order.paymentMethod = some .cash && order.cashSettledAt.isNone

namespace Payment

/-- What has become of a prompt MTN accepted. -/
inductive PromptState where
  /-- On somebody's phone, and still to be answered. -/
  | waiting
  /-- Money has moved: this much, in this currency. -/
  | settled (amount : ℚ) (currency : Text)
  | declined
  deriving DecidableEq

/-- A prompt MTN accepted, under the reference it was asked for with. -/
structure Prompt where
  reference : Nat
  /-- The order the external id names, when the prompt is for a fare. -/
  orderId : Option Nat
  msisdn : String
  amount : ℚ
  currency : Text
  state : PromptState := .waiting
  /-- MTN has told us how it ended. -/
  reported : Bool := false
  deriving DecidableEq

/-- Notes that changed hands at the door, as the cash UPDATE recorded them. -/
structure CashTaken where
  orderId : Nat
  amount : ℚ
  deriving DecidableEq

/-- How a driver's commission was cleared. -/
inductive Channel where
  | payout (id : Nat)
  | settlement (id : Nat)
  | dispatch
  deriving DecidableEq

/-- The commission of one cash order, cleared. -/
structure Clearing where
  orderId : Nat
  driver : Option String
  fee : ℚ
  /-- The currency recorded on the order. -/
  currency : Option Text
  channel : Channel
  /-- The currency the money was taken in, where we took it ourselves. -/
  charged : Option Text
  deriving DecidableEq

/-- Everything the payment services share. -/
structure Store where
  orders : List Order
  requests : List PaymentRequest := []
  payouts : List DriverPayout := []
  settlements : List CashSettlement := []
  /-- MTN's own books. -/
  prompts : List Prompt := []
  cash : List CashTaken := []
  clearings : List Clearing := []
  audit : List AuditEntry := []
  now : Nat := 0
  /-- Serials and references are both drawn from here, so each is new. -/
  nextId : Nat := 0

namespace Store

variable (store : Store)

/-- The order an id names. -/
def order (id : Nat) : Option Order := store.orders.find? fun order => order.id = id

/-- The request a reference names. -/
def request (reference : Nat) : Option PaymentRequest :=
  store.requests.find? fun request => request.reference = reference

/-- The order's unresolved request. -/
def pendingRequest (orderId : Nat) : Option PaymentRequest :=
  store.requests.find? fun request => request.orderId = orderId ∧ request.status = .pending

/-- The request a serial names is still unresolved. -/
def stillPending (requestId : Nat) : Bool :=
  store.requests.any fun request => request.id = requestId && request.status = .pending

/-- What MTN knows of a reference. -/
def prompt (reference : Nat) : Option Prompt :=
  store.prompts.find? fun prompt => prompt.reference = reference

end Store

/-- A string the language takes for present: neither null nor empty. -/
def present (text : Option String) : Option String := text.filter (· ≠ "")

/-- An error the caller is meant to see. -/
structure PaymentError where
  code : String
  status : Nat
  message : String
  deriving DecidableEq

/-- How a call ended. -/
inductive Outcome (α : Type) where
  | returned (value : α)
  | thrown (error : PaymentError)
  /-- A statement failed, and the failure went up to the caller. -/
  | failed
  deriving DecidableEq

/-- The fate of a `requestToPay`. -/
inductive PromptAnswer where
  /-- MTN accepted it and said so. -/
  | accepted
  /-- MTN accepted it and the response was lost. -/
  | lost
  /-- MTN was never reached. -/
  | unreachable
  /-- MTN refused it, with this status. -/
  | refused (status : Nat)
  deriving DecidableEq

/-- The status of a verdict. -/
inductive VerdictStatus where
  | pending
  | successful
  /-- Any other word: `FAILED`, `REJECTED`, `TIMEOUT`. -/
  | other (name : String)
  deriving DecidableEq

/-- What MTN says of a reference. -/
structure Verdict where
  status : VerdictStatus
  /-- `Number(verdict.amount)`, when that is a finite number. -/
  amount : Option ℚ := none
  currency : Option Text := none
  transactionId : Option String := none
  reason : Option String := none
  deriving DecidableEq

/-- The word a verdict's status is. -/
def VerdictStatus.word : VerdictStatus → String
  | .pending => "PENDING"
  | .successful => "SUCCESSFUL"
  | .other name => name

/-- What a step finds: whether its statement fails, and what MTN answers. -/
structure Answer where
  /-- The database statement fails. -/
  fails : Bool := false
  /-- The fate of a prompt. -/
  prompt : PromptAnswer := .accepted
  /-- What MTN says when asked, nothing when it cannot be read. -/
  verdict : Option Verdict := none
  deriving DecidableEq

/-- What can be locked from one statement of a transaction to its end. -/
inductive Lock where
  /-- A row of `orders`. -/
  | order (id : Nat)
  /-- A row of `cash_settlements`. -/
  | settlement (id : Nat)
  /-- The key of the one payout a collection may have. -/
  | payoutFor (requestId : Nat)
  deriving DecidableEq

/--
The statements the services run.

Inside a transaction a statement takes its locks at once, and its writes wait for the COMMIT.
-/
inductive Statement where
  /-- Nothing is written. -/
  | nothing
  /-- A statement inside an open transaction. -/
  | lock (keys : List Lock)
  | insertRequest (row : PaymentRequest)
  /-- MTN takes a prompt in. -/
  | accept (prompt : Prompt)
  /-- MTN is asked about a reference, and answers. -/
  | report (reference : Nat)
  /-- The catch block of a request: no guard on the status the row has by now. -/
  | failRequest (id : Nat) (reason : String)
  /-- The verdict, written only over a row still `'PENDING'`. -/
  | resolveRequest (id : Nat) (status : RequestStatus) (transactionId reason : Option String)
  /-- The sweep's own view, written only over a row still `'PENDING'`. -/
  | timeOutRequest (reference : Nat)
  /-- `payment_status` alone, whatever it was. -/
  | stampPayment (orderId : Nat) (status : PaymentStatus)
  /-- `payment_status = 'PAID', paid_at = NOW()`, whatever it was. -/
  | stampPaid (orderId : Nat)
  /-- Cash at the door, written only over an order not yet `'PAID'`. -/
  | takeCash (orderId : Nat)
  /-- The payout's INSERT: its serial is drawn, its key is locked. -/
  | insertPayout (requestId : Nat)
  /-- COMMIT of a payout and of the debts it clears. -/
  | commitPayout (payout : DriverPayout) (cleared : List Nat)
  | insertSettlement (row : CashSettlement)
  /-- The catch block of a settlement. -/
  | failSettlement (id : Nat) (reason : String)
  /-- COMMIT of a settlement's verdict and of the debts it clears. -/
  | commitSettlement (settlement : CashSettlement) (status : RequestStatus)
      (transactionId reason : Option String) (cleared : List Nat)
  /-- Dispatch takes the commission, written only over an order still owing it. -/
  | settleCash (orderId : Nat)
  /-- Append to the audit log. -/
  | audit (entry : AuditEntry)

/-- What a statement makes of one row of `orders`. -/
def Statement.onOrder (now : Nat) (statement : Statement) (row : Order) : Order :=
  match statement with
  | .stampPayment id status => if row.id = id then { row with paymentStatus := status } else row
  | .stampPaid id =>
    if row.id = id then { row with paymentStatus := .paid, paidAt := some now } else row
  | .takeCash id =>
    if row.id = id ∧ row.paymentStatus ≠ .paid then
      { row with paymentStatus := .paid, paymentMethod := some .cash, paidAt := some now,
                 cashCollectedAt := some now }
    else row
  -- No guard on whether the debt is still outstanding.
  | .commitPayout payout cleared =>
    if row.id ∈ cleared then
      { row with cashSettledAt := some now, cashSettledByPayoutId := some payout.id }
    else row
  | .commitSettlement settlement _ _ _ cleared =>
    if row.id ∈ cleared then
      { row with cashSettledAt := some now, cashSettledBySettlementId := some settlement.id }
    else row
  | .settleCash id =>
    if row.id = id ∧ row.cashOutstanding then { row with cashSettledAt := some now } else row
  | _ => row

/-- What a statement makes of one row of `payment_requests`. -/
def Statement.onRequest (now : Nat) (statement : Statement) (row : PaymentRequest) :
    PaymentRequest :=
  match statement with
  -- This one has no condition on the status; the other two ask for PENDING.
  | .failRequest id reason =>
    if row.id = id then
      { row with status := .failed, failureReason := some reason, resolvedAt := some now }
    else row
  | .resolveRequest id status transactionId reason =>
    if row.id = id ∧ row.status = .pending then
      { row with status := status, providerTransactionId := transactionId, failureReason := reason,
                 resolvedAt := some now }
    else row
  | .timeOutRequest reference =>
    if row.reference = reference ∧ row.status = .pending then
      { row with status := .timedOut, failureReason := some "Customer did not respond",
                 resolvedAt := some now }
    else row
  | _ => row

/-- What a statement makes of one row of `cash_settlements`. -/
def Statement.onSettlement (now : Nat) (statement : Statement) (row : CashSettlement) :
    CashSettlement :=
  match statement with
  -- Nor has this one.
  | .failSettlement id reason =>
    if row.id = id then
      { row with status := .failed, failureReason := some reason, resolvedAt := some now }
    else row
  | .commitSettlement settlement status transactionId reason _ =>
    if row.id = settlement.id ∧ row.status = .pending then
      { row with status := status, providerTransactionId := transactionId, failureReason := reason,
                 resolvedAt := some now }
    else row
  | _ => row

/-- What a statement makes of one of MTN's prompts. -/
def Statement.onPrompt (statement : Statement) (prompt : Prompt) : Prompt :=
  match statement with
  | .report reference =>
    if prompt.reference = reference ∧ prompt.state ≠ .waiting then { prompt with reported := true }
    else prompt
  | _ => prompt

/-- The ledger entry of an order whose commission is cleared. -/
def clearing (channel : Channel) (charged : Option Text) (order : Order) : Clearing where
  orderId := order.id
  driver := order.assignedTo
  fee := orZero order.platformFee
  currency := order.currency
  channel := channel
  charged := charged

/-- The commissions a statement clears. -/
def Statement.clears (orders : List Order) : Statement → List Clearing
  | .commitPayout payout cleared =>
    (orders.filter fun order => order.id ∈ cleared).map
      (clearing (.payout payout.id) (some payout.currency))
  | .commitSettlement settlement _ _ _ cleared =>
    (orders.filter fun order => order.id ∈ cleared).map
      (clearing (.settlement settlement.id) (some settlement.currency))
  -- By hand it is one order, and only while it is outstanding.
  | .settleCash id =>
    (orders.filter fun order => order.id = id ∧ order.cashOutstanding).map (clearing .dispatch none)
  | _ => []

/-- The cash a statement records. -/
def Statement.takes (orders : List Order) : Statement → List CashTaken
  | .takeCash id =>
    (orders.filter fun order => order.id = id ∧ order.paymentStatus ≠ .paid).map
      fun order => { orderId := order.id, amount := orZero order.priceTotal }
  | _ => []

/-- What a statement does to the store. -/
def Statement.execute (statement : Statement) (store : Store) : Store where
  orders := store.orders.map (statement.onOrder store.now)
  -- Each table is its old rows as they are left, and the new one behind them.
  requests := store.requests.map (statement.onRequest store.now) ++
    match statement with
    | .insertRequest row => [row]
    | _ => []
  payouts := store.payouts ++
    match statement with
    | .commitPayout payout _ => [payout]
    | _ => []
  settlements := store.settlements.map (statement.onSettlement store.now) ++
    match statement with
    | .insertSettlement row => [row]
    | _ => []
  prompts := store.prompts.map statement.onPrompt ++
    match statement with
    | .accept prompt => [prompt]
    | _ => []
  cash := store.cash ++ statement.takes store.orders
  clearings := store.clearings ++ statement.clears store.orders
  audit := store.audit ++
    match statement with
    | .audit entry => [entry]
    | _ => []
  now := store.now
  -- One counter numbers the rows of all three tables.
  nextId := match statement with
    | .insertRequest _ | .insertSettlement _ | .insertPayout _ => store.nextId + 1
    | _ => store.nextId

/-- The locks a statement waits for. -/
def Statement.needs : Statement → List Lock
  | .lock keys => keys
  | .stampPayment id _ | .stampPaid id | .takeCash id | .settleCash id => [.order id]
  | .insertPayout requestId => [.payoutFor requestId]
  | .failSettlement id _ => [.settlement id]
  -- Rows of `payment_requests` are never locked beyond one statement, and a COMMIT waits for nothing.
  | .nothing | .insertRequest _ | .accept _ | .report _ | .failRequest _ _
  | .resolveRequest _ _ _ _ | .timeOutRequest _ | .commitPayout _ _ | .insertSettlement _
  | .commitSettlement _ _ _ _ _ | .audit _ => []

end Payment

end Freight
