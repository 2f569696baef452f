import Freight.Order.Transitions
import Freight.Pricing.Quote

/-! What booking, placement, waiting and delivery write to an order's own money. -/

namespace Freight

/-- `COALESCE(column, 0)`. -/
abbrev orZero (column : Option ℚ) : ℚ := column.getD 0

namespace Order

/-- The row a dispatcher's `createOrder` inserts, priced firm. -/
def created (id : Nat) (priced : Quote) : Order where
  id := id
  pricingRateId := some priced.pricingRateId
  currency := some priced.currency
  quotedTotal := some priced.totalAmount
  priceTotal := some priced.totalAmount
  -- The desk has measured the way.
  priceIsEstimate := false
  platformFee := some priced.platformFee
  driverNet := some priced.driverNet
  returnLegAmount := some priced.returnLegAmount

/-- The row a customer's own booking inserts. It stores no return leg. -/
def booked (id : Nat) (customerPhone : String) (priced : Quote) : Order where
  id := id
  customerPhone := some customerPhone
  pricingRateId := some priced.pricingRateId
  currency := some priced.currency
  quotedTotal := some priced.totalAmount
  priceTotal := some priced.totalAmount
  -- Without both pins the way is not measured, and the figure may still move.
  priceIsEstimate := priced.isEstimate
  platformFee := some priced.platformFee
  driverNet := some priced.driverNet

/-- The repricing a placement writes. What was quoted, and its currency, are left alone. -/
def repriced (order : Order) (priced : Quote) : Order :=
  { order with
    pricingRateId := some priced.pricingRateId
    priceTotal := some priced.totalAmount
    platformFee := some priced.platformFee
    driverNet := some priced.driverNet
    -- From here on it is a firm price.
    priceIsEstimate := false
    returnLegAmount := some priced.returnLegAmount }

/-- Money already charged, or on somebody's phone, is not repriced. -/
def paymentCommitted (order : Order) : Bool :=
  order.paymentStatus = .paid || order.paymentStatus = .pending

/-- `placeOneOrder`: a real distance replaces the estimate, unless money is committed. -/
def placed (order : Order) (pricing : Except PricingError Quote) : Order :=
  if order.paymentCommitted then order
  else match pricing with
    -- The order stays placed, and keeps its estimate.
    | .error _ => order
    | .ok priced => order.repriced priced

/-- What a wait since arrival is worth, on the card the job was quoted on. -/
def detentionForOrder (rateOf : Nat → Option Rate) (order : Order) (waited : Option ℚ) : Option Detention :=
  -- A job with no recorded arrival has no recorded wait.
  waited.bind fun minutes =>
    let waitedMinutes := max 0 (mathRound minutes)
    match order.pricingRateId.bind rateOf with
    | none => some { waitedMinutes := waitedMinutes, chargeableMinutes := 0, detentionAmount := 0 }
    -- A failure is caught and logged, and the wait goes uncharged.
    | some rate => (detentionCharge rate waitedMinutes).toOption

/-- The charge for waiting at the pickup, written as the driver leaves it. -/
def pickupCharged (order : Order) (waited : Detention) : Order :=
  { order with
    pickupDetentionMinutes := some waited.waitedMinutes
    pickupDetentionAmount := some waited.detentionAmount
    detentionMinutes := some (orZero order.detentionMinutes + waited.waitedMinutes)
    detentionAmount := some (orZero order.detentionAmount + waited.detentionAmount)
    -- Whether the order has been paid for is not looked at here.
    priceTotal := some (orZero order.priceTotal + waited.detentionAmount)
    driverNet := some (orZero order.driverNet + waited.detentionAmount) }

/-- The pickup-detention step of `updateOrderStatus`. -/
def leftPickup (order : Order) (waited : Option Detention) : Order :=
  match waited with
  | none => order
  | some waited => order.pickupCharged waited

/-- What gave a return leg its load, and what is given back for it. -/
structure Backfill where
  filledByOrderId : Nat
  creditAmount : ℚ
  deriving DecidableEq

/-- The credit for a return leg that some order, found collecting near the drop, has filled. -/
def backfillCreditForOrder (order : Order) (filledBy : Option Nat) : Option Backfill :=
  match order.returnLegAmount, filledBy with
  | some returnLeg, some filler =>
    -- Only an order charged for an empty return has anything to give back.
    if 0 < returnLeg then some { filledByOrderId := filler, creditAmount := mathRound returnLeg }
    else none
  | _, _ => none

/-- What confirming a delivery adds to the job: the wait at the drop, less the credit. -/
def deliveryChange (waited : Option Detention) (backfill : Option Backfill) : ℚ :=
  orZero (waited.map Detention.detentionAmount) - orZero (backfill.map Backfill.creditAmount)

/-- The row `confirmDelivery` writes. -/
def delivered (order : Order) (waited : Option Detention) (backfill : Option Backfill) : Order :=
  let charge := orZero (waited.map Detention.detentionAmount)
  let credit := orZero (backfill.map Backfill.creditAmount)
  { order with
    status := .delivered
    dropoffDetentionMinutes := (waited.map Detention.waitedMinutes).or order.dropoffDetentionMinutes
    dropoffDetentionAmount := (waited.map Detention.detentionAmount).or order.dropoffDetentionAmount
    detentionMinutes :=
      some (orZero order.detentionMinutes + orZero (waited.map Detention.waitedMinutes))
    detentionAmount := some (orZero order.detentionAmount + charge)
    -- Once money has been collected the total stops moving, and the adjustment moves instead.
    priceTotal := if order.paymentStatus = .paid then order.priceTotal
      else some (orZero order.priceTotal + charge - credit)
    settlementAdjustment := if order.paymentStatus = .paid
      then some (orZero order.settlementAdjustment + charge - credit)
      else order.settlementAdjustment
    driverNet := some (orZero order.driverNet + charge - credit)
    backfillCredit := (backfill.map Backfill.creditAmount).or order.backfillCredit
    backfilledByOrderId := (backfill.map Backfill.filledByOrderId).or order.backfilledByOrderId }

end Order

end Freight
