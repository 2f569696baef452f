import Mathlib.Data.Rat.Defs
import Freight.Store.Currency

/-! The rows the payment services read and write, with the columns those services use. -/

namespace Freight

/-- `orders.status`. -/
inductive OrderStatus where
  | pending
  | offered
  | assigned
  | atPickup
  | pickedUp
  | inTransit
  | arrived
  | delivered
  | cancelled
  deriving DecidableEq

/-- `orders.payment_status`. -/
inductive PaymentStatus where
  | unpaid
  | pending
  | paid
  | failed
  deriving DecidableEq

/-- `orders.payment_method`. -/
inductive PaymentMethod where
  | momo
  | cash
  deriving DecidableEq

/-- `payment_requests.status`, and `cash_settlements.status` with it. -/
inductive RequestStatus where
  | pending
  | successful
  | failed
  | timedOut
  deriving DecidableEq

/-- `driver_payouts.status`. -/
inductive PayoutStatus where
  | queued
  | sending
  | successful
  | failed
  | held
  deriving DecidableEq

/-- A row of `orders`. Absent columns are nulls, and times are milliseconds on one clock. -/
structure Order where
  id : Nat
  status : OrderStatus := .pending
  assignedTo : Option String := none
  customerPhone : Option String := none
  pricingRateId : Option Nat := none
  currency : Option Text := none
  quotedTotal : Option ℚ := none
  priceTotal : Option ℚ := none
  priceIsEstimate : Bool := true
  platformFee : Option ℚ := none
  driverNet : Option ℚ := none
  returnLegAmount : Option ℚ := none
  detentionMinutes : Option ℚ := none
  detentionAmount : Option ℚ := none
  pickupDetentionMinutes : Option ℚ := none
  pickupDetentionAmount : Option ℚ := none
  dropoffDetentionMinutes : Option ℚ := none
  dropoffDetentionAmount : Option ℚ := none
  backfillCredit : Option ℚ := none
  backfilledByOrderId : Option Nat := none
  settlementAdjustment : Option ℚ := some 0
  paymentStatus : PaymentStatus := .unpaid
  paymentMethod : Option PaymentMethod := none
  paidAt : Option Nat := none
  cashCollectedAt : Option Nat := none
  cashSettledAt : Option Nat := none
  cashSettledByPayoutId : Option Nat := none
  cashSettledBySettlementId : Option Nat := none

/-- A row of `payment_requests`: one attempt to collect one order's fare. -/
structure PaymentRequest where
  id : Nat
  orderId : Nat
  /-- Our own handle for the attempt, which the provider is asked about. -/
  reference : Nat
  payerMsisdn : String
  payerIsBookingNumber : Bool
  amount : ℚ
  currency : Text
  status : RequestStatus := .pending
  providerTransactionId : Option String := none
  failureReason : Option String := none
  requestedBy : Option String := none
  createdAt : Nat
  resolvedAt : Option Nat := none
  deriving DecidableEq

/-- When a transfer was stamped as sent, and which attempt it belonged to. -/
structure SentStamp where
  time : Nat
  /-- Not a column: it tells a stamp of the current attempt from one an earlier attempt left. -/
  attempt : Nat
  deriving DecidableEq

/-- A row of `driver_payouts`: what one collection owes one driver. -/
structure DriverPayout where
  id : Nat
  orderId : Option Nat
  paymentRequestId : Option Nat
  driverUsername : String
  payeeMsisdn : String
  reference : Nat
  amount : ℚ
  grossAmount : ℚ
  cashRecovered : Option ℚ := none
  currency : Text
  status : PayoutStatus := .queued
  releaseAt : Nat
  providerTransactionId : Option String := none
  failureReason : Option String := none
  attempts : Nat := 0
  sentAt : Option SentStamp := none
  deriving DecidableEq

/-- The row `queueDriverPayout` inserts, before anything is netted off it. -/
def queuedPayout (id reference : Nat) (orderId paymentRequestId : Option Nat)
    (driver msisdn : String) (amount : ℚ) (currency : Text) (releaseAt : Nat) : DriverPayout where
  id := id
  orderId := orderId
  paymentRequestId := paymentRequestId
  driverUsername := driver
  payeeMsisdn := msisdn
  reference := reference
  amount := amount
  grossAmount := amount
  currency := currency
  releaseAt := releaseAt

/-- A row of `cash_settlements`: a driver paying commission from their own phone. -/
structure CashSettlement where
  id : Nat
  driverUsername : String
  reference : Nat
  payerMsisdn : String
  amount : ℚ
  currency : Text
  status : RequestStatus := .pending
  providerTransactionId : Option String := none
  failureReason : Option String := none
  resolvedAt : Option Nat := none
  deriving DecidableEq

/-- A row of `system_audit_logs`: what happened, to which row, and on whose word. -/
structure AuditEntry where
  actionType : String
  subject : Nat
  username : String
  deriving DecidableEq

end Freight
