import Freight.Payment.Keys

/-! What has been collected for an order, what still may be, and which steps endanger it. -/

namespace Freight.Payment

/-- An order's fare: its price, as it stands. -/
def fare (id : Nat) (store : Store) : ℚ := orZero ((store.order id).bind Order.priceTotal)

/-- What a prompt has moved. -/
def Prompt.moved (prompt : Prompt) : ℚ :=
  match prompt.state with
  | .settled amount _ => amount
  | .waiting | .declined => 0

/-- MTN's prompts for an order's fare. -/
def faresPrompted (id : Nat) (store : Store) : List Prompt :=
  store.prompts.filter fun prompt => prompt.orderId = some id

/-- Cash recorded for an order. -/
def cashFor (id : Nat) (store : Store) : List CashTaken :=
  store.cash.filter fun entry => entry.orderId = id

/-- Requests for an order that have succeeded or still may. -/
def liveRequests (id : Nat) (store : Store) : List PaymentRequest :=
  store.requests.filter fun request =>
    request.orderId = id ∧ (request.status = .pending ∨ request.status = .successful)

/-- Everything collected for an order, by MTN and in cash. -/
def collectedFor (id : Nat) (store : Store) : ℚ :=
  ((faresPrompted id store).map Prompt.moved).sum + ((cashFor id store).map CashTaken.amount).sum

/-- The order's customer has been asked at most once at a time, and has paid at most once. -/
structure CollectedOnce (id : Nat) (store : Store) : Prop where
  /-- A request is let go of only once MTN has said how it ended, or never had it. -/
  released : ∀ request ∈ store.requests, request.orderId = id → request.status ≠ .pending →
    ∀ prompt ∈ store.prompts, prompt.reference = request.reference →
      prompt.reported = true ∧ prompt.state ≠ .waiting
  /-- At most one prompt is still to be answered. -/
  onePrompt : ((faresPrompted id store).filter fun prompt => prompt.state = .waiting).length ≤ 1
  /-- Nothing has been collected, or one fare. -/
  oneFare : collectedFor id store = 0 ∨ collectedFor id store = fare id store

/-- MTN's verdict on a reference is what its own books hold. -/
def truthful (store : Store) (reference : Nat) (verdict : Verdict) : Bool :=
  match (store.prompt reference).map Prompt.state with
  -- A reference MTN never had has no verdict.
  | none => false
  | some .waiting => verdict.status = .pending
  | some (.settled amount currency) =>
    verdict.status = .successful && verdict.amount = some amount && verdict.currency = some currency
  | some .declined => verdict.status ≠ .pending && verdict.status ≠ .successful

/-- The reference a call is about to ask MTN about. -/
def PaymentCall.asking (call : PaymentCall) : Option Nat :=
  match call, call.reconciling with
  | _, some (.ask found) => some found.request.reference
  | .settlement (.ask asked), _ => some asked.reference
  | _, _ => none

/-- MTN answers a call truly, if it answers at all. -/
def PaymentCall.toldTruly (store : Store) (answer : Answer) (call : PaymentCall) : Bool :=
  call.asking.all fun reference => answer.verdict.all (truthful store reference)

/--
MTN answers truly, and moves what it was asked to move; the order itself stays as it is.

A prompt may be settled at any moment until MTN has reported it resolved.
-/
def mtnFair (pool : PaymentPool) : PaymentEvent → Bool
  | .run index answer => pool.calls[index]?.all fun call => call.toldTruly pool.shared answer
  | .outside (.settle reference amount currency) =>
    pool.shared.prompts.all fun prompt =>
      prompt.reference ≠ reference || (prompt.amount = amount && prompt.currency = currency)
  | .outside (.updateOrderStatus _ _ _ _) | .outside (.confirmDelivery _ _ _ _) => false
  | _ => true

/-- MTN has said that the prompt will not be paid. -/
def Prompt.dead (prompt : Prompt) : Bool := prompt.reported && prompt.state = .declined

/-- No request for the order is live, and no cash has been taken for it. -/
def uncollected (id : Nat) (store : Store) : Bool :=
  (liveRequests id store).isEmpty && (cashFor id store).isEmpty

/--
A call lets go of a request only on MTN's word, and collects only where nothing has been.

It is not a catch block failing a request MTN took in, nor the sweep giving up on one still pending,
nor a settlement found to mismatch, nor a prompt or cash on top of an earlier collection.
-/
def PaymentCall.collectsOnce (cfg : Config) (id : Nat) (store : Store) (answer : Answer)
    (call : PaymentCall) : Bool :=
  match call with
  | .request (.refuse _ reference _ _) =>
    answer.fails || store.prompts.all fun prompt => prompt.reference ≠ reference || prompt.dead
  -- Giving up on a row leaves the prompt on the phone as it is.
  | .sweep (.timeOut row _ _) =>
    answer.fails ||
      store.requests.all (fun request =>
        request.reference ≠ row.reference || request.status ≠ .pending) ||
      store.prompts.any fun prompt => prompt.reference = row.reference && prompt.dead
  | .request (.insertRequest charge) =>
    charge.orderId ≠ id || (store.pendingRequest id).isSome || uncollected id store
  | .cash (.takeCash orderId _) =>
    orderId ≠ id || (store.order id).all (fun order => order.paymentStatus = .paid) ||
      uncollected id store
  | call =>
    match call.reconciling, answer.verdict with
    | some (.ask found), some verdict =>
      found.request.orderId ≠ id || verdict.status ≠ .successful ||
        settlesAsked cfg found.request verdict
    | _, _ => true

/-- No event of the run collects, or lets go of a prompt, where it should not. -/
def collectsOnce (cfg : Config) (id : Nat) (pool : PaymentPool) : PaymentEvent → Bool
  | .run index answer =>
    pool.calls[index]?.all fun call => call.collectsOnce cfg id pool.shared answer
  | _ => true

/-- Statements change orders in place, so an id names the same row afterwards. -/
theorem order_execute (statement : Statement) (store : Store) (id : Nat) :
    (statement.execute store).order id = (store.order id).map (statement.onOrder store.now) := by
  -- The id that is looked for is in no statement's reach.
  simp only [Store.order, execute_orders, List.find?_map]
  congr 1
  refine congrArg (fun test => store.orders.find? test) (funext fun row => ?_)
  simp

/-- No statement changes a fare. -/
@[simp] theorem fare_execute (statement : Statement) (store : Store) (id : Nat) :
    fare id (statement.execute store) = fare id store := by
  -- The price is one of the columns that no statement writes.
  simp only [fare, order_execute]
  cases store.order id with
  | none => rfl
  | some row => simp [(onOrder_same statement store.now row).2.2.1]

/-- A fare is only ever asked for at the order's own price. -/
theorem chargeFor_fare {cfg : Config} {store : Store} {orderId : Nat}
    {payFrom requestedBy : Option String} {charge : Charge}
    (decided : chargeFor cfg (store.order orderId) payFrom requestedBy = .ok charge) :
    charge.orderId = orderId ∧ charge.amount = fare orderId store := by
  -- The amount is the price of the row that was read, which had one.
  obtain ⟨row, found, own, -, allowed⟩ := chargeFor_ok decided
  have same : row.id = orderId := by simpa using List.find?_some found
  obtain ⟨-, -, priced, -⟩ := chargeable_ok allowed
  exact ⟨own.trans same, by simp [fare, found, priced]⟩

end Freight.Payment
