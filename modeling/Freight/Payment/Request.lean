import Freight.Payment.Store

/-! Raising a payment request against an order. -/

namespace Freight.Payment

/-- What has been decided about a charge before anything is written. -/
structure Charge where
  orderId : Nat
  amount : ℚ
  currency : Option Text
  target : String
  msisdn : String
  payerIsBookingNumber : Bool
  requestedBy : Option String

/-- What raising a request returns. -/
structure Requested where
  reference : Nat
  reused : Bool
  amount : ℚ
  deriving DecidableEq

/-- A run of `requestPaymentForOrder`, by its next statement. -/
inductive RequestCall where
  /-- About to read the order. -/
  | selectOrder (orderId : Nat) (payFrom requestedBy : Option String)
  /-- About to look for a prompt in flight. -/
  | selectPending (charge : Charge)
  /-- About to write the request row. -/
  | insertRequest (charge : Charge)
  /-- About to call MTN. -/
  | requestToPay (requestId reference : Nat) (charge : Charge)
  /-- In the catch block. -/
  | refuse (requestId reference : Nat) (reason : String) (retryable : Bool)
  /-- Accepted, and about to stamp the order `'PENDING'`. -/
  | stampPending (reference : Nat) (charge : Charge)
  | done (outcome : Outcome Requested)

/-- Statuses in which a fare may be collected. -/
def collectableStatuses : List OrderStatus := [.arrived, .inTransit, .delivered]

/-- Whether an order may be charged at all, and how much. -/
def chargeable (order : Order) : Except PaymentError ℚ :=
  if order.paymentStatus = .paid then
    .error { code := "PAYMENT_ALREADY_PAID", status := 409,
             message := "This delivery has already been paid for." }
  -- Asking before arrival would prompt somebody whose goods are still on the road.
  else if !collectableStatuses.contains order.status then
    .error { code := "PAYMENT_TOO_EARLY", status := 409,
             message := "Mark the delivery as arrived before asking the customer to pay." }
  else match order.priceTotal with
    | none =>
      .error { code := "PAYMENT_NO_PRICE", status := 409,
               message := "This order has no settled price yet. Dispatch has to place it first." }
    | some total =>
      -- An estimate is not a bill.
      if order.priceIsEstimate then
        .error { code := "PAYMENT_PRICE_IS_ESTIMATE", status := 409,
                 message := "This delivery is still on an estimated price. Dispatch has to confirm the real price before it can be charged." }
      else .ok total

/-- Which handset to prompt, as the provider wants its number written. -/
def payable (cfg : Config) (order : Order) (payFrom : Option String) :
    Except PaymentError (String × String) :=
  match present ((present payFrom).or order.customerPhone) with
  -- The number the caller names comes first, and then the customer's own.
  | none =>
    .error { code := "PAYMENT_NO_NUMBER", status := 400,
             message := "No phone number to charge. Ask the customer which number to send the prompt to." }
  | some target =>
    match toMsisdn cfg.normalizePhone target with
    | none =>
      .error { code := "PAYMENT_INVALID_NUMBER", status := 400,
               message := "That is not a valid mobile number." }
    | some msisdn =>
      -- A number of another network never sees the prompt.
      if canReceiveMomoPrompt cfg.normalizePhone target then .ok (target, msisdn)
      else
        .error { code := "PAYMENT_WRONG_NETWORK", status := 400,
                 message := target ++ " is not an MTN number, so it cannot receive a MoMo prompt. Ask the customer for an MTN number, or take cash." }

/-- The charge an order's row and the caller's wishes come to. -/
def chargeFor (cfg : Config) (order : Option Order) (payFrom requestedBy : Option String) :
    Except PaymentError Charge :=
  match order with
  | none =>
    .error { code := "ORDERS_NOT_FOUND", status := 404, message := "That order no longer exists." }
  | some order =>
    match chargeable order with
    | .error refusal => .error refusal
    -- First what is owed, then who is to be asked for it.
    | .ok amount =>
      match payable cfg order payFrom with
      | .error refusal => .error refusal
      | .ok (target, msisdn) =>
        .ok { orderId := order.id, amount := amount, currency := order.currency, target := target,
              msisdn := msisdn, payerIsBookingNumber := (present payFrom).isNone,
              requestedBy := present requestedBy }

/-- Only an unpaid order on its way or at its door is charged, and its settled price. -/
theorem chargeable_ok {order : Order} {amount : ℚ} (allowed : chargeable order = .ok amount) :
    order.paymentStatus ≠ .paid ∧ collectableStatuses.contains order.status = true ∧
      order.priceTotal = some amount ∧ order.priceIsEstimate = false := by
  simp only [chargeable] at allowed
  split at allowed
  · cases allowed
  · -- Each check that passes is one of the four facts.
    rename_i unpaid
    split at allowed
    · cases allowed
    · rename_i due
      split at allowed
      · cases allowed
      · rename_i total priced
        split at allowed
        · cases allowed
        · rename_i firm
          cases allowed
          exact ⟨unpaid, by simpa using due, priced, by simpa using firm⟩

/-- A charge is some chargeable order's, in its own currency. -/
theorem chargeFor_ok {cfg : Config} {order : Option Order} {payFrom requestedBy : Option String}
    {charge : Charge} (decided : chargeFor cfg order payFrom requestedBy = .ok charge) :
    ∃ row, order = some row ∧ charge.orderId = row.id ∧ charge.currency = row.currency ∧
      chargeable row = .ok charge.amount := by
  simp only [chargeFor] at decided
  split at decided
  · cases decided
  · rename_i row
    split at decided
    · cases decided
    · -- The order is there and chargeable, and the phone number is the last thing asked for.
      rename_i amount allowed
      split at decided
      · cases decided
      · cases decided
        exact ⟨row, rfl, rfl, rfl, allowed⟩

/-- The request row, before MTN is called. -/
def newRequest (store : Store) (charge : Charge) (currency : Text) : PaymentRequest where
  id := store.nextId
  orderId := charge.orderId
  reference := store.nextId
  payerMsisdn := charge.msisdn
  payerIsBookingNumber := charge.payerIsBookingNumber
  -- The price is the one that was read when the charge was decided.
  amount := charge.amount
  currency := currency
  requestedBy := charge.requestedBy
  createdAt := store.now

/-- The prompt MTN takes in. -/
def farePrompt (reference : Nat) (charge : Charge) (currency : Text) : Prompt where
  reference := reference
  orderId := some charge.orderId
  msisdn := charge.msisdn
  amount := charge.amount
  currency := currency

/-- The caller is told to try again, or to take cash. -/
def requestRefused (retryable : Bool) : PaymentError where
  code := "PAYMENT_REQUEST_REFUSED"
  status := if retryable then 503 else 502
  message := "Could not reach mobile money. Try again, or take cash and tell dispatch."

/-- The statement a request is at, and where it stands afterwards. -/
def RequestCall.next (cfg : Config) (store : Store) (answer : Answer) :
    RequestCall → Statement × RequestCall
  | .selectOrder orderId payFrom requestedBy =>
    if !cfg.collectionConfigured then
      (.nothing, .done (.thrown { code := "PAYMENTS_NOT_CONFIGURED", status := 503, message :=
        "Mobile money is not set up on this server. Take cash and record it with dispatch." }))
    else if answer.fails then (.nothing, .done .failed)
    else match chargeFor cfg (store.order orderId) payFrom requestedBy with
      | .error refusal => (.nothing, .done (.thrown refusal))
      | .ok charge => (.nothing, .selectPending charge)
  | .selectPending charge =>
    if answer.fails then (.nothing, .done .failed)
    else match store.pendingRequest charge.orderId with
      -- Any unresolved request is reused, at any age.
      | some existing => (.nothing, .done (.returned
          { reference := existing.reference, reused := true, amount := charge.amount }))
      | none => (.nothing, .insertRequest charge)
  | .insertRequest charge =>
    match charge.currency with
    | none | some [] => (.nothing, .done (.thrown { code := "PAYMENT_NO_CURRENCY", status := 409, message :=
        "This order has no currency on it, so it cannot be charged. Dispatch has to reprice it." }))
    | some currency =>
      -- The index allows one pending row an order, and a second INSERT fails on it.
      if answer.fails || (store.pendingRequest charge.orderId).isSome then (.nothing, .done .failed)
      else (.insertRequest (newRequest store charge currency),
        .requestToPay store.nextId store.nextId charge)
  | .requestToPay requestId reference charge =>
    match resolveSettlementCurrency cfg.upper charge.currency cfg.momoCurrency with
    | .error _ => (.nothing, .refuse requestId reference "currency refused" false)
    | .ok currency =>
      match answer.prompt with
      | .accepted => (.accept (farePrompt reference charge currency), .stampPending reference charge)
      -- Silence is taken for a refusal, whatever MTN has made of the request.
      | .lost =>
        (.accept (farePrompt reference charge currency), .refuse requestId reference "MoMo request failed" true)
      | .unreachable => (.nothing, .refuse requestId reference "MoMo request failed" true)
      | .refused status =>
        (.nothing, .refuse requestId reference "MoMo refused the payment request" (decide (500 ≤ status)))
  | .refuse requestId _ reason retryable =>
    if answer.fails then (.nothing, .done .failed)
    else (.failRequest requestId reason, .done (.thrown (requestRefused retryable)))
  | .stampPending reference charge =>
    if answer.fails then (.nothing, .done .failed)
    else (.stampPayment charge.orderId .pending, .done (.returned
      { reference := reference, reused := false, amount := charge.amount }))
  | .done outcome => (.nothing, .done outcome)

end Freight.Payment
