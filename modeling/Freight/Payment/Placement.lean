import Freight.Payment.System

/-! Placing orders on the map, a statement at a time, beside the payment services and over the same rows. -/

namespace Freight.Payment

/-- A latitude and a longitude as a request sends them, where they are finite numbers. -/
structure Pin where
  lat : Option ℚ
  lng : Option ℚ
  deriving DecidableEq

/-- `isValidLat` and `isValidLng`. -/
def Pin.isValid (pin : Pin) : Bool :=
  (pin.lat.any fun lat => -90 ≤ lat && lat ≤ 90) && pin.lng.any fun lng => -180 ≤ lng && lng ≤ 180

/-- What a request to place an order sends. -/
structure Placement where
  orderId : Nat
  pickup : Pin
  delivery : Pin
  originHubId : Option Nat := none
  username : Option String := none
  deriving DecidableEq

/-- The columns a placement returns. -/
structure PlacedRow where
  id : Nat
  pickup : Pin
  delivery : Pin
  originHubName : Option String
  weightKg : ℚ
  quotedTotal : Option ℚ
  deriving DecidableEq

/-- What a step finds: beside the rows the services share, hubs, distances, rate cards and corridors. -/
structure PlacingAnswer extends Answer where
  /-- The name of the hub an id names. -/
  hub : Option String := none
  /-- Columns of the order that no payment service reads. -/
  originHubName : Option String := none
  weightKg : ℚ := 1
  /-- A distance that is a finite number. -/
  metres : Option ℚ := none
  currentRateFor : String → Option Rate := fun _ => none
  /-- The terrain of the corridor a route runs through. -/
  terrainFactor : Option ℚ := none

/-- The statements of the services, and those of a placement. -/
inductive PlacingStatement where
  | service (statement : Statement)
  /-- The UPDATE of the coordinates and the hub, none of which a payment service reads. -/
  | locate (orderId : Nat)
  /-- The repricing: no guard on the payment status the row has by now. -/
  | reprice (orderId : Nat) (priced : Quote)

/-- What a statement does to the store. -/
def PlacingStatement.execute : PlacingStatement → Store → Store
  | .service statement, store => statement.execute store
  | .locate _, store => store
  | .reprice orderId priced, store => store.updateOrder orderId fun order => order.repriced priced

/-- The locks a statement waits for. -/
def PlacingStatement.needs : PlacingStatement → List Lock
  | .service statement => statement.needs
  | .locate orderId | .reprice orderId _ => [.order orderId]

/-- A run of `placeOneOrder`, by its next statement. -/
inductive PlaceCall where
  /-- About to read the hub. -/
  | selectHub (placement : Placement) (hubId : Nat)
  /-- About to look whether money is committed. -/
  | selectPaymentStatus (placement : Placement) (hub : Option String)
  /-- About to pin the order to the map. -/
  | updateLocation (placement : Placement) (hub : Option String)
  /-- About to measure the distance. -/
  | measure (placement : Placement) (row : PlacedRow)
  /-- About to read the rate card. -/
  | selectRate (placement : Placement) (row : PlacedRow) (distanceKm : Option ℚ)
  /-- About to look for a corridor. -/
  | selectCorridor (placement : Placement) (row : PlacedRow) (distanceKm : Option ℚ) (rate : Rate)
  /-- About to write the new price. -/
  | reprice (placement : Placement) (row : PlacedRow) (priced : Quote)
  | audit (placement : Placement) (row : PlacedRow)
  | done (outcome : Outcome PlacedRow)

/-- The refusal of coordinates at one end of the job. -/
def invalidCoords (label : String) : PaymentError where
  code := "ORDERS_PLACE_INVALID_COORDS"
  status := 400
  message := label ++ " coordinates are missing or out of range."

/-- What is checked before any statement is run, and the first statement. -/
def placeOneOrder (placement : Placement) : PlaceCall :=
  if !placement.pickup.isValid then .done (.thrown (invalidCoords "Pickup"))
  else if !placement.delivery.isValid then .done (.thrown (invalidCoords "Delivery"))
  else match placement.originHubId with
    | some hubId => .selectHub placement hubId
    | none => .selectPaymentStatus placement none

/-- Money already committed is not repriced. -/
def placementGate (order : Option Order) : Except PaymentError Unit :=
  match order.map Order.paymentStatus with
  | some .paid =>
    .error { code := "ORDERS_PLACE_PAYMENT_COMMITTED", status := 409, message :=
      "This delivery has already been paid for, so its price cannot be recalculated. Place it without repricing, or refund and rebook." }
  -- Only a stamped prompt shows here; one under way does not.
  | some .pending =>
    .error { code := "ORDERS_PLACE_PAYMENT_COMMITTED", status := 409, message :=
      "A payment prompt is already on the customer's phone. Wait for it to finish before changing the price." }
  | _ => .ok ()

/-- What follows the quote: a failure is caught, and the order stays placed. -/
def afterQuote (placement : Placement) (row : PlacedRow) (quoted : Except PricingError Quote) : PlaceCall :=
  match quoted with
  | .error _ => .audit placement row
  | .ok priced => .reprice placement row priced

/-- The statement a placement is at, and where it stands afterwards. -/
def PlaceCall.next (store : Store) (answer : PlacingAnswer) : PlaceCall → PlacingStatement × PlaceCall
  | .selectHub placement _ =>
    if answer.fails then (.service .nothing, .done .failed)
    else match answer.hub with
      | none => (.service .nothing, .done (.thrown
          { code := "ORDERS_HUB_NOT_FOUND", status := 400, message := "That pickup hub no longer exists." }))
      | some name => (.service .nothing, .selectPaymentStatus placement (some name))
  | .selectPaymentStatus placement hub =>
    if answer.fails then (.service .nothing, .done .failed)
    else match placementGate (store.order placement.orderId) with
      | .error refusal => (.service .nothing, .done (.thrown refusal))
      | .ok _ => (.service .nothing, .updateLocation placement hub)
  | .updateLocation placement hub =>
    if answer.fails then (.service .nothing, .done .failed)
    else match store.order placement.orderId with
      | none => (.service .nothing, .done (.thrown
          { code := "ORDERS_NOT_FOUND", status := 404, message := "That order no longer exists." }))
      | some order =>
        (.locate placement.orderId, .measure placement
          { id := order.id, pickup := placement.pickup, delivery := placement.delivery,
            originHubName := hub.or answer.originHubName, weightKg := answer.weightKg,
            quotedTotal := order.quotedTotal })
  -- From here on every failure is caught, and logged.
  | .measure placement row =>
    (.service .nothing,
      if answer.fails then .audit placement row
      else .selectRate placement row (answer.metres.map fun metres => metres / 1000))
  | .selectRate placement row distanceKm =>
    (.service .nothing,
      match classForWeight row.weightKg with
      | .error _ => .audit placement row
      | .ok vehicleClass =>
        if answer.fails then .audit placement row
        else match answer.currentRateFor vehicleClass with
          | none => .audit placement row
          -- Terrain is only looked up where there is a distance.
          | some rate =>
            if distanceKm.isNone then afterQuote placement row (quote rate row.weightKg none none)
            else .selectCorridor placement row distanceKm rate)
  | .selectCorridor placement row distanceKm rate =>
    (.service .nothing,
      if answer.fails then .audit placement row
      else afterQuote placement row (quote rate row.weightKg distanceKm answer.terrainFactor))
  | .reprice placement row priced =>
    (if answer.fails then .service .nothing else .reprice placement.orderId priced, .audit placement row)
  | .audit placement row =>
    (.service (if answer.fails then .nothing
      else .audit { actionType := "ORDER_PLACED_ON_MAP", subject := placement.orderId,
                    username := (present placement.username).getD "System" }),
      .done (.returned row))
  | .done outcome => (.service .nothing, .done outcome)

/-- An order of a batch that was not placed. -/
structure NotPlaced where
  orderId : Nat
  code : String
  message : String
  deriving DecidableEq

/-- What placing a batch returns. -/
structure PlacedBatch where
  placed : List PlacedRow := []
  failed : List NotPlaced := []
  deriving DecidableEq

/-- One order of a batch is done, and the next is not held up by it. -/
def PlacedBatch.report (batch : PlacedBatch) (placement : Placement) : Outcome PlacedRow → PlacedBatch
  | .returned row => { batch with placed := batch.placed ++ [row] }
  -- What stopped this order is told in the answer of the whole batch.
  | .thrown error =>
    { batch with failed := batch.failed ++
        [{ orderId := placement.orderId, code := error.code, message := error.message }] }
  | .failed =>
    { batch with failed := batch.failed ++
        [{ orderId := placement.orderId, code := "ORDERS_PLACE_FAILED",
           message := "Could not save those locations." }] }

/-- A run of `placeOrderBatch`. -/
inductive PlaceBatchCall where
  /-- Placing one of the orders. -/
  | placing (placement : Placement) (rest : List Placement) (batch : PlacedBatch) (inner : PlaceCall)
  | done (outcome : Outcome PlacedBatch)

/-- How many orders one batch places at most. -/
def maxBatchPlacements : Nat := 100

/-- The loop of a batch: the next order, or the end. -/
def nextPlacement (rest : List Placement) (batch : PlacedBatch) : PlaceBatchCall :=
  match rest with
  | [] => .done (.returned batch)
  | placement :: rest => .placing placement rest batch (placeOneOrder placement)

/-- What is checked of a batch, and its first order. -/
def placeOrderBatch (placements : List Placement) : PlaceBatchCall :=
  if placements = [] then
    .done (.thrown { code := "ORDERS_PLACE_BATCH_EMPTY", status := 400,
                     message := "Send at least one placement." })
  else if maxBatchPlacements < placements.length then
    .done (.thrown { code := "ORDERS_PLACE_BATCH_TOO_LARGE", status := 400,
                     message := "Place at most 100 orders at a time." })
  -- The orders are placed one after another, each on its own.
  else nextPlacement placements {}

/-- The statement a batch is at, and where it stands afterwards. -/
def PlaceBatchCall.next (store : Store) (answer : PlacingAnswer) :
    PlaceBatchCall → PlacingStatement × PlaceBatchCall
  | .placing placement rest batch inner =>
    match inner with
    -- Whatever came of this one, the next is begun.
    | .done outcome => (.service .nothing, nextPlacement rest (batch.report placement outcome))
    | open_ =>
      let next := open_.next store answer
      (next.1, .placing placement rest batch next.2)
  | .done outcome => (.service .nothing, .done outcome)

/-- A call of a payment service, or a placement. -/
inductive FareCall where
  | service (call : PaymentCall)
  | placeOneOrder (call : PlaceCall)
  | placeOrderBatch (call : PlaceBatchCall)

/-- What starts a call. -/
inductive FareEntry where
  | service (entry : PaymentEntry)
  | placeOneOrder (placement : Placement)
  | placeOrderBatch (placements : List Placement)
  deriving DecidableEq

/-- What happens around the calls, with the order itself left as it is. -/
inductive Elsewhere where
  | settle (reference : Nat) (amount : ℚ) (currency : Text)
  | decline (reference : Nat)
  | wait (duration : Nat)
  deriving DecidableEq

/-- The event around the payment services that it is. -/
def Elsewhere.event : Elsewhere → PaymentOutside
  | .settle reference amount currency => .settle reference amount currency
  | .decline reference => .decline reference
  | .wait duration => .wait duration

/-- The first statement of a call. -/
def FareEntry.start : FareEntry → FareCall
  | .service entry => .service entry.start
  | .placeOneOrder placement => .placeOneOrder (Payment.placeOneOrder placement)
  | .placeOrderBatch placements => .placeOrderBatch (Payment.placeOrderBatch placements)

/-- The statement a call is at, and where it stands afterwards. -/
def FareCall.next (cfg : Config) (store : Store) (answer : PlacingAnswer) :
    FareCall → PlacingStatement × FareCall
  | .service call => (call.next cfg store answer.toAnswer).map .service .service
  | .placeOneOrder call => (call.next store answer).map id .placeOneOrder
  | .placeOrderBatch call => (call.next store answer).map id .placeOrderBatch

/-- The call of a payment service that a call is. -/
def FareCall.paying : FareCall → Option PaymentCall
  | .service call => some call
  | .placeOneOrder _ | .placeOrderBatch _ => none

/-- The placement a call is in the middle of, by itself or inside a batch. -/
def FareCall.placing : FareCall → Option PlaceCall
  | .placeOneOrder call | .placeOrderBatch (.placing _ _ _ call) => some call
  | _ => none

/-- Payment services and placements over one store. -/
def faresAndPlacements (cfg : Config) :
    CallSystem Store PlacingStatement FareEntry FareCall PlacingAnswer Elsewhere Lock where
  start := FareEntry.start
  next := fun store answer call => call.next cfg store answer
  execute := PlacingStatement.execute
  -- A placement runs in no transaction.
  holds := fun call => (call.paying.map PaymentCall.holds).getD []
  needs := PlacingStatement.needs
  outside := fun event store => event.event.happen store
  outsideNeeds := fun event => event.event.needs
  stopped := .service .stopped

/-- Calls and placements in flight, and the store they share. -/
abbrev FarePool := Pool Store FareCall

/-- What can happen next to them. -/
abbrev FareEvent := PoolEvent FareEntry PlacingAnswer Elsewhere

end Freight.Payment
