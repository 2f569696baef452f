import Freight.Payment.Request

/-! Taking the fare in cash at the door, and dispatch taking the commission back. -/

namespace Freight.Payment

/-- What recording cash returns. -/
structure CashRecorded where
  orderId : Nat
  amount : ℚ
  currency : Option Text
  platformFeeOwed : Option ℚ
  deriving DecidableEq

/-- A run of `recordCashPayment`, by its next statement. -/
inductive CashCall where
  /-- About to read the order. -/
  | selectOrder (orderId : Nat) (collectedBy : Option String)
  /-- About to look for a prompt in flight. -/
  | selectInFlight (orderId : Nat) (collectedBy : Option String)
  /-- About to mark the order paid. -/
  | takeCash (orderId : Nat) (collectedBy : Option String)
  | audit (recorded : CashRecorded) (collectedBy : Option String)
  | done (outcome : Outcome CashRecorded)

/-- Whether cash may be recorded against an order at all. -/
def cashGate (order : Option Order) : Except PaymentError Unit :=
  match order with
  | none =>
    .error { code := "ORDERS_NOT_FOUND", status := 404, message := "That order no longer exists." }
  | some order =>
    -- What is wrong with the order is told in the order of the handler.
    if order.paymentStatus = .paid then
      .error { code := "PAYMENT_ALREADY_PAID", status := 409,
               message := "This delivery has already been paid for." }
    else if !collectableStatuses.contains order.status then
      .error { code := "PAYMENT_TOO_EARLY", status := 409,
               message := "Mark the delivery as arrived before recording payment." }
    else if order.priceTotal.isNone then
      .error { code := "PAYMENT_NO_PRICE", status := 409,
               message := "This order has no settled price, so there is no amount to record." }
    else if order.priceIsEstimate then
      .error { code := "PAYMENT_PRICE_IS_ESTIMATE", status := 409, message :=
        "This delivery is still on an estimated price. Dispatch has to confirm the real price first." }
    else .ok ()

/-- The refusal of an order somebody else has marked paid. -/
def alreadyPaid : PaymentError where
  code := "PAYMENT_ALREADY_PAID"
  status := 409
  message := "This delivery has already been paid for."

/-- The statement a recording is at, and where it stands afterwards. -/
def CashCall.next (store : Store) (answer : Answer) : CashCall → Statement × CashCall
  | .selectOrder orderId collectedBy =>
    if answer.fails then (.nothing, .done .failed)
    else match cashGate (store.order orderId) with
      | .error refusal => (.nothing, .done (.thrown refusal))
      | .ok _ => (.nothing, .selectInFlight orderId collectedBy)
  | .selectInFlight orderId collectedBy =>
    if answer.fails then (.nothing, .done .failed)
    else match store.pendingRequest orderId with
      | some _ => (.nothing, .done (.thrown { code := "PAYMENT_PROMPT_IN_FLIGHT", status := 409, message :=
          "A mobile money prompt is already on the customer's phone. Wait for it to finish or fail before taking cash." }))
      | none => (.nothing, .takeCash orderId collectedBy)
  | .takeCash orderId collectedBy =>
    if answer.fails then (.nothing, .done .failed)
    else match store.order orderId with
      | none => (.nothing, .done (.thrown alreadyPaid))
      | some order =>
        -- Nothing is returned for an order already marked paid.
        if order.paymentStatus = .paid then (.nothing, .done (.thrown alreadyPaid))
        else (.takeCash orderId, .audit
          { orderId := orderId, amount := orZero order.priceTotal, currency := order.currency,
            platformFeeOwed := order.platformFee } collectedBy)
  | .audit recorded collectedBy =>
    (if answer.fails then .nothing
      else .audit { actionType := "PAYMENT_CASH_COLLECTED", subject := recorded.orderId,
                    username := (present collectedBy).getD "System" },
      .done (.returned recorded))
  | .done outcome => (.nothing, .done outcome)

/-- A run of `settleCashForOrder`, by its next statement. -/
inductive DispatchCall where
  /-- About to mark the commission settled. -/
  | settleCash (orderId : Nat) (settledBy : Option String)
  | audit (orderId : Nat) (settledBy : Option String)
  | done (outcome : Outcome Nat)

/-- The statement a settlement by dispatch is at, and where it stands afterwards. -/
def DispatchCall.next (store : Store) (answer : Answer) : DispatchCall → Statement × DispatchCall
  | .settleCash orderId settledBy =>
    if answer.fails then (.nothing, .done .failed)
    -- The UPDATE carries this condition, so it happens once.
    else if (store.order orderId).any Order.cashOutstanding then
      (.settleCash orderId, .audit orderId settledBy)
    else (.nothing, .done (.thrown { code := "CASH_NOT_OUTSTANDING", status := 409, message :=
      "That order has no cash commission outstanding." }))
  | .audit orderId settledBy =>
    (if answer.fails then .nothing
      else .audit { actionType := "PAYMENT_CASH_SETTLED", subject := orderId,
                    username := (present settledBy).getD "System" },
      .done (.returned orderId))
  | .done outcome => (.nothing, .done outcome)

end Freight.Payment
