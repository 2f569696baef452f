import Freight.Payment.Cash
import Freight.Payment.Settlement

/-! Every payment service at once: calls interleaved a statement at a time, MTN, and the order's own life. -/

namespace Freight

/-- The order moves on, unless the transition table or a payment already made refuses it. -/
def Order.movesTo (order : Order) (status : OrderStatus) : Bool :=
  canTransition order.status status && !(status = .cancelled && order.paymentStatus = .paid)

/-- `updateOrderStatus`: the new status, and the charge for a wait at the pickup that it ends. -/
def Order.statusUpdated (order : Order) (rateOf : Nat → Option Rate) (status : OrderStatus)
    (waited : Option ℚ) : Order :=
  if order.movesTo status then
    let moved := { order with status := status }
    -- What ends the wait is leaving the gate, whatever comes next.
    if order.status = .atPickup ∧ status ≠ .atPickup then
      moved.leftPickup (order.detentionForOrder rateOf waited)
    else moved
  else order

/-- `confirmDelivery`, once its proof has been accepted: only an arrived order is delivered. -/
def Order.deliveryConfirmed (order : Order) (rateOf : Nat → Option Rate) (waited : Option ℚ)
    (filledBy : Option Nat) : Order :=
  if deliverableFrom.contains order.status then
    order.delivered (order.detentionForOrder rateOf waited) (order.backfillCreditForOrder filledBy)
  else order

namespace Payment

/-- A call of one of the payment services. -/
inductive PaymentCall where
  | request (call : RequestCall)
  | reconcile (call : ReconcileCall)
  | sweep (call : SweepCall)
  | cash (call : CashCall)
  | dispatch (call : DispatchCall)
  | settlementRequest (call : SettlementRequestCall)
  | settlement (call : SettlementCall)
  /-- Its process has stopped. -/
  | stopped

/-- What starts a call. -/
inductive PaymentEntry where
  | requestPaymentForOrder (orderId : Nat) (payFrom requestedBy : Option String)
  /-- A webhook, or the driver's poll. -/
  | reconcilePaymentRequest (reference : Nat)
  | sweepPendingPayments
  | recordCashPayment (orderId : Nat) (collectedBy : Option String)
  | settleCashForOrder (orderId : Nat) (settledBy : Option String)
  | requestCashSettlement (driver : String) (asked : Asked)
  | reconcileCashSettlement (reference : Nat)
  deriving DecidableEq

/-- The first statement of a call. -/
def PaymentEntry.start : PaymentEntry → PaymentCall
  -- Every service begins with a SELECT, or with the one UPDATE it consists of.
  | .requestPaymentForOrder orderId payFrom requestedBy =>
    .request (.selectOrder orderId payFrom requestedBy)
  | .reconcilePaymentRequest reference => .reconcile (.selectRequest reference)
  | .sweepPendingPayments => .sweep .selectPending
  | .recordCashPayment orderId collectedBy => .cash (.selectOrder orderId collectedBy)
  | .settleCashForOrder orderId settledBy => .dispatch (.settleCash orderId settledBy)
  | .requestCashSettlement driver asked => .settlementRequest (.selectDebts driver asked)
  | .reconcileCashSettlement reference => .settlement (.selectSettlement reference)

/-- The statement a call is at, and where it stands afterwards. -/
def PaymentCall.next (cfg : Config) (store : Store) (answer : Answer) :
    PaymentCall → Statement × PaymentCall
  | .request call => (call.next cfg store answer).map id .request
  | .reconcile call => (call.next cfg store answer).map id .reconcile
  | .sweep call => (call.next cfg store answer).map id .sweep
  | .cash call => (call.next store answer).map id .cash
  | .dispatch call => (call.next store answer).map id .dispatch
  | .settlementRequest call => (call.next cfg store answer).map id .settlementRequest
  | .settlement call => (call.next store answer).map id .settlement
  | .stopped => (.nothing, .stopped)

/-- The locks a call keeps between its statements. -/
def PaymentCall.holds : PaymentCall → List Lock
  | .reconcile call => call.holds
  | .sweep call => call.holds
  | .settlement call => call.holds
  | .request _ | .cash _ | .dispatch _ | .settlementRequest _ | .stopped => []

/-- The settlement of a request a call is in the middle of, by itself or inside a sweep. -/
def PaymentCall.reconciling : PaymentCall → Option ReconcileCall
  | .reconcile inner | .sweep (.settling _ _ _ inner) => some inner
  | _ => none

/-- What happens around the services. -/
inductive PaymentOutside where
  /-- Somebody enters their PIN, and MTN moves the money. -/
  | settle (reference : Nat) (amount : ℚ) (currency : Text)
  /-- A prompt is refused, or lapses. -/
  | decline (reference : Nat)
  /-- Time passes. -/
  | wait (duration : Nat)
  /-- A status update, in the one transaction that locks the order. -/
  | updateOrderStatus (orderId : Nat) (rateOf : Nat → Option Rate) (status : OrderStatus)
      (waited : Option ℚ)
  /-- A delivery confirmed, in the one transaction that locks the order. -/
  | confirmDelivery (orderId : Nat) (rateOf : Nat → Option Rate) (waited : Option ℚ)
      (filledBy : Option Nat)

/-- A prompt is answered once, and for good. -/
def Prompt.answered (prompt : Prompt) (reference : Nat) (state : PromptState) : Prompt :=
  if prompt.reference = reference ∧ prompt.state = .waiting then { prompt with state := state }
  else prompt

/-- A change to the row of `orders` an id names. -/
def Store.updateOrder (store : Store) (id : Nat) (change : Order → Order) : Store :=
  { store with orders := store.orders.map fun order => if order.id = id then change order else order }

/-- What an outside event does to the store. -/
def PaymentOutside.happen (store : Store) : PaymentOutside → Store
  | .settle reference amount currency =>
    { store with prompts := store.prompts.map fun prompt =>
        prompt.answered reference (.settled amount currency) }
  | .decline reference =>
    { store with prompts := store.prompts.map fun prompt => prompt.answered reference .declined }
  | .wait duration => { store with now := store.now + duration }
  -- Dispatch charges for waits, and so it moves the price.
  | .updateOrderStatus orderId rateOf status waited =>
    store.updateOrder orderId fun order => order.statusUpdated rateOf status waited
  | .confirmDelivery orderId rateOf waited filledBy =>
    store.updateOrder orderId fun order => order.deliveryConfirmed rateOf waited filledBy

/-- The locks an outside event waits for. -/
def PaymentOutside.needs : PaymentOutside → List Lock
  | .settle _ _ _ | .decline _ | .wait _ => []
  | .updateOrderStatus orderId _ _ _ | .confirmDelivery orderId _ _ _ => [.order orderId]

/-- The payment services over one store. -/
def services (cfg : Config) :
    CallSystem Store Statement PaymentEntry PaymentCall Answer PaymentOutside Lock where
  start := PaymentEntry.start
  next := fun store answer call => call.next cfg store answer
  execute := Statement.execute
  -- Only the transactions lock rows across statements.
  holds := PaymentCall.holds
  needs := Statement.needs
  outside := fun event store => event.happen store
  outsideNeeds := PaymentOutside.needs
  stopped := .stopped

/-- An order at its door in Kigali, priced and not yet paid for. -/
def atTheDoor : Order where
  id := 1
  status := .arrived
  assignedTo := some "+250788000001"
  customerPhone := some "+250788123456"
  currency := some ['R', 'W', 'F']
  quotedTotal := some 1000
  priceTotal := some 1000
  priceIsEstimate := false
  platformFee := some 150
  driverNet := some 850

/-- The services' calls and the store they share. -/
abbrev PaymentPool := Pool Store PaymentCall

/-- What can happen next: a call, one statement of a call, a crash, or something outside. -/
abbrev PaymentEvent := PoolEvent PaymentEntry Answer PaymentOutside

/-- One order at its door, and no call in flight. -/
def oneAtTheDoor : PaymentPool := { shared := { orders := [atTheDoor], nextId := 1 }, calls := [] }

/-- What MTN says of a fare it has collected. -/
def collected : Verdict where
  status := .successful
  amount := some 1000
  currency := some ['R', 'W', 'F']

end Payment

end Freight
