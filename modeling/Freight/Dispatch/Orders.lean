import Mathlib.Algebra.Order.Ring.Rat
import Freight.Dispatch.Gates
import Freight.Payment.System

/-! The order controller: booking, placing, assigning, offering, moving on and delivering an order. -/

namespace Freight.Dispatch

/-- `isValidWeightKg`. -/
def isValidWeightKg (weightKg : ℚ) : Bool := 0 < weightKg && weightKg ≤ 50000

/-- `isValidLat` and `isValidLng`. -/
def Point.isValid (point : Point) : Bool :=
  -90 ≤ point.lat && point.lat ≤ 90 && -180 ≤ point.lng && point.lng ≤ 180

/-- A weight as `weight_kg` stores it, to two decimals. -/
def storedWeight (weightKg : ℚ) : ℚ≥0 := (mathRound (weightKg * 100) / 100).toNNRat

/-- What a dispatcher's `createOrder` is given, with the hub looked up and the job priced. -/
structure NewOrder where
  weightKg : ℚ
  hub : Point
  delivery : Point
  recipientPhone : Option String
  pricing : Except PricingError Quote

/-- What a customer's booking is given. Both ends are pinned, or neither. -/
structure NewBooking where
  weightKg : ℚ
  customerPhone : String
  place : Option (Point × Point)
  pricing : Except PricingError Quote

/-- The row `createOrder` inserts. -/
def NewOrder.row (request : NewOrder) (priced : Quote) (id : Nat) : DispatchOrder where
  toOrder := .created id priced
  weightKg := storedWeight request.weightKg
  pickup := some request.hub
  delivery := some request.delivery
  recipientPhone := request.recipientPhone

/-- The row a customer's booking inserts. -/
def NewBooking.row (request : NewBooking) (priced : Quote) (id : Nat) : DispatchOrder where
  toOrder := .booked id request.customerPhone priced
  weightKg := storedWeight request.weightKg
  pickup := request.place.map Prod.fst
  delivery := request.place.map Prod.snd

/-- `createOrder`. -/
def createOrder (board : Board) (requester : Requester) (request : NewOrder) :
    Except Failure Board := do
  allow dispatchRoles requester
  require (isValidWeightKg request.weightKg) .weight
  require request.delivery.isValid .coordinates
  let priced ← request.pricing.mapError .pricing
  return { board with orders := board.orders.insert (request.row priced) fun _ => rfl }

/-- `publicCreateOrder`: anybody may book. -/
def publicCreateOrder (board : Board) (request : NewBooking) : Except Failure Board := do
  require (isValidWeightKg request.weightKg) .weight
  let priced ← request.pricing.mapError .pricing
  return { board with orders := board.orders.insert (request.row priced) fun _ => rfl }

/-- Repricing leaves the id alone. -/
theorem placed_id (order : Order) (pricing : Except PricingError Quote) :
    (order.placed pricing).id = order.id := by
  -- None of its branches writes the id.
  unfold Order.placed
  split
  · rfl
  · split <;> rfl

/-- `placeOneOrder`: both ends are pinned to the map, and the order is repriced. -/
def placeOneOrder (board : Board) (requester : Requester) (id : Nat) (pickup delivery : Point)
    (pricing : Except PricingError Quote) : Except Failure Board := do
  allow dispatchRoles requester
  require (pickup.isValid && delivery.isValid) .coordinates
  let order ← demand (board.order id) .orderNotFound
  -- Money that is committed is not repriced.
  require (!order.paymentCommitted) (.paymentCommitted order.paymentStatus)
  -- An order that cannot be priced is on the map all the same, and keeps the price it had.
  return board.changeOrder id
    (fun order => { order with
      toOrder := order.toOrder.placed pricing, pickup := some pickup, delivery := some delivery })
    fun _ => placed_id _ _

/-- The orders an id list names that are still waiting for a driver. -/
def Board.pendingAmong (board : Board) (ids : List Nat) : List DispatchOrder :=
  board.orders.rows.filter fun order => ids.contains order.id && order.status = .pending

/-- An order handed to a driver and to the vehicle they hold. -/
def DispatchOrder.assigned (order : DispatchOrder) (driver : String) (vehicle : Nat) : DispatchOrder :=
  { order with status := .assigned, assignedTo := some driver, vehicleId := some vehicle }

/-- `assignOrderBundle`. -/
def assignOrderBundle (cfg : DispatchConfig) (board : Board) (requester : Requester)
    (orderIds : List Nat) (driverName : String) : Except Failure Board := do
  allow dispatchRoles requester
  require (!orderIds.isEmpty) .assignPayload
  require (trim driverName.toList ≠ []) .driverNotSpecified
  let driver ← demand (board.registeredDriver driverName) (.notRegistered driverName)
  let vehicle ← demand (board.vehicleOf driver.id) (.noVehicle driverName)
  require (isDriverVerified board driverName) (.unverified driverName)
  refuse (cashHoldFor cfg board driverName)
  -- All of the bundle waits, or none of it is assigned.
  let found := board.pendingAmong orderIds
  require (found.length = orderIds.length) .assignConflict
  require (unplacedAmong found).isEmpty (.unplaced (unplacedAmong found))
  checkCapacity vehicle (board.currentLoad vehicle.id none) (totalWeight found)
  -- One UPDATE for the orders, and a log row for each.
  return { board with
    orders := board.orders.updateWhere (fun order => orderIds.contains order.id)
      (fun order => order.assigned driverName vehicle.id) fun _ => rfl
    logs := board.logs ++ orderIds.map fun id =>
      { orderId := id, previousStatus := .pending, newStatus := .assigned
        changedBy := requester.username, changedAt := board.now } }

/-- Two names that differ in nothing but case, an absent one counting as blank. -/
def sameName (cfg : DispatchConfig) (name : Option String) (other : String) : Bool :=
  cfg.lower (name.getD "") = cfg.lower other

/-- An order sent back to the queue, with no driver and no vehicle. -/
def DispatchOrder.unassigned (order : DispatchOrder) : DispatchOrder :=
  { order with status := .pending, assignedTo := none, vehicleId := none }

/-- It is the same order still. -/
theorem DispatchOrder.unassigned_id (order : DispatchOrder) : order.unassigned.id = order.id := rfl

/-- `reassignOrder`: another driver, or back to the queue where none is named. -/
def reassignOrder (cfg : DispatchConfig) (board : Board) (requester : Requester) (id : Nat)
    (driverName : Option String) : Except Failure Board := do
  allow dispatchRoles requester
  let order ← demand (board.order id) .orderNotFound
  require order.isPlaced (.unplaced [id])
  require (order.status = .assigned) (.reassignState order.status)
  let nextDriver := String.ofList (trim (driverName.getD "").toList)
  -- No driver is named, so the order goes back to the queue.
  if nextDriver = "" then
    return (board.changeOrder id DispatchOrder.unassigned DispatchOrder.unassigned_id).logged
      id .assigned .pending requester.username
  else
    require (!sameName cfg order.assignedTo nextDriver) (.sameDriver order.assignedTo)
    let driver ← demand (board.registeredDriver nextDriver) (.notRegistered nextDriver)
    let vehicle ← demand (board.vehicleOf driver.id) (.noVehicle nextDriver)
    require (isDriverVerified board nextDriver) (.unverified nextDriver)
    -- The order's own weight is left out of the load before it is added.
    checkCapacity vehicle (board.currentLoad vehicle.id (some id)) order.weightKg
    return (board.changeOrder id
      (fun order => { order with assignedTo := some nextDriver, vehicleId := some vehicle.id })
      fun _ => rfl).logged id .assigned .assigned requester.username

/-- An order in another status, and in nothing else changed. -/
def DispatchOrder.movedTo (status : OrderStatus) (order : DispatchOrder) : DispatchOrder :=
  { order with status := status }

/-- `DRIVER_ALLOWED_STATUSES`. -/
def driverAllowedStatuses : List OrderStatus := [.atPickup, .pickedUp, .inTransit, .arrived, .delivered]

/-- `ARRIVAL_STATUSES`. -/
def arrivalStatuses : List OrderStatus := [.atPickup, .arrived]

/-- An arrival is recorded by a driver only. -/
def mayRecord (requester : Requester) (status : OrderStatus) : Bool :=
  requester.role = .driver || !arrivalStatuses.contains status

/-- The minutes since an order was last logged as reaching a status. -/
def Board.waitedSince (board : Board) (id : Nat) (status : OrderStatus) : Option ℚ :=
  let reached := (board.logs.filter fun log => log.orderId = id && log.newStatus = status).map
    StatusLog.changedAt
  reached.max?.map fun time => ((board.now : ℚ) - time) / minute

/-- `issueDeliveryCode`: an order keeps the code it has, and gets none where there is nobody to text. -/
def DispatchOrder.codeIssued (cfg : DispatchConfig) (order : DispatchOrder) (code : String) :
    DispatchOrder :=
  let phone := (Payment.present order.recipientPhone).or (Payment.present order.customerPhone)
  if (Payment.present order.deliveryCodeHash).isNone && phone.isSome then
    { order with deliveryCodeHash := some (cfg.hashCode code), deliveryCodeAttempts := 0 }
  else order

/-- A status update as it leaves the order: a wait at the pickup charged, a code issued on the way. -/
def DispatchOrder.statusUpdated (cfg : DispatchConfig) (board : Board) (order : DispatchOrder)
    (status : OrderStatus) (code : String) : DispatchOrder :=
  let moved : DispatchOrder := { order with
    toOrder := order.toOrder.statusUpdated cfg.rateOf status (board.waitedSince order.id .atPickup) }
  if status = .inTransit ∨ status = .arrived then moved.codeIssued cfg code else moved

/-- A status update leaves the id alone. -/
theorem statusUpdated_id (cfg : DispatchConfig) (board : Board) (order : DispatchOrder)
    (status : OrderStatus) (code : String) :
    (order.statusUpdated cfg board status code).id = order.id := by
  -- Neither the charge for the wait nor the code touches the key.
  have kept : (order.toOrder.statusUpdated cfg.rateOf status
      (board.waitedSince order.id .atPickup)).id = order.id := by
    unfold Order.statusUpdated
    split
    · split
      · unfold Order.leftPickup
        split <;> rfl
      · rfl
    · rfl
  unfold DispatchOrder.statusUpdated
  split
  · simp only [DispatchOrder.codeIssued]
    split <;> exact kept
  · exact kept

/-- The checks of `updateOrderStatus`, up to the UPDATE: the order it may move, and where to. -/
def statusChange (cfg : DispatchConfig) (board : Board) (requester : Requester) (id : Nat)
    (status : Option OrderStatus) : Except Failure (DispatchOrder × OrderStatus) := do
  let status ← demand status .invalidStatus
  require (requester.role ≠ .driver || driverAllowedStatuses.contains status)
    (.driverForbidden status)
  -- From here on the checks are on the row under its lock.
  let order ← demand (board.order id) .orderNotFound
  require (requester.role ≠ .driver || sameName cfg order.assignedTo requester.username) .notAssignee
  require (canTransition order.status status) (.outOfTable order.status status)
  require (!(status = .cancelled && order.paymentStatus = .paid)) .cancelPaid
  return (order, status)

/-- `updateOrderStatus`. -/
def updateOrderStatus (cfg : DispatchConfig) (board : Board) (requester : Requester) (id : Nat)
    (status : Option OrderStatus) (code : String) : Except Failure Board := do
  let (order, status) ← statusChange cfg board requester id status
  -- The UPDATE has been made by now, and this refusal does not roll it back.
  require (mayRecord requester status) .arrivalDriverOnly
  return (board.changeOrder id (fun order => order.statusUpdated cfg board status code)
    fun _ => statusUpdated_id ..).logged id order.status status requester.username

/--
What a refused `updateOrderStatus` leaves behind.

The refusal that comes after the UPDATE hands its connection back with the transaction still open.
Whoever is given the connection next may commit it, and then the bare UPDATE stands.
-/
def afterRefusedStatus (cfg : DispatchConfig) (board : Board) (requester : Requester) (id : Nat)
    (status : Option OrderStatus) (committedLater : Bool) : Board :=
  match statusChange cfg board requester id status with
  | .ok (_, status) =>
    if committedLater then board.changeOrder id (.movedTo status) fun _ => rfl else board
  | .error _ => board

/-- Why a status is not forced. -/
inductive ForceFailure where
  | forbidden
  | invalidStatus
  | reasonRequired
  | orderNotFound
  | noChange
  deriving DecidableEq

/-- The HTTP status and the code a refusal to force a status is sent with. -/
def ForceFailure.response : ForceFailure → Nat × String
  | .forbidden => (403, "AUTH_FORBIDDEN")
  | .invalidStatus => (400, "ORDERS_STATUS_INVALID")
  | .reasonRequired => (400, "ORDERS_FORCE_REASON_REQUIRED")
  | .orderNotFound => (404, "ORDERS_NOT_FOUND")
  | .noChange => (409, "ORDERS_FORCE_NO_CHANGE")

/-- `forceOrderStatus`, up to its COMMIT: any status at all, for a written reason. -/
def forceOrderStatus (board : Board) (requester : Requester) (id : Nat) (status : Option OrderStatus)
    (reason : String) : Except ForceFailure Board := do
  require (requester.role = .admin) .forbidden
  let status ← demand status .invalidStatus
  require (10 ≤ (trim reason.toList).length) .reasonRequired
  let order ← demand (board.order id) .orderNotFound
  require (order.status ≠ status) .noChange
  -- The log says that it was forced, and by whom.
  return (board.changeOrder id (.movedTo status) fun _ => rfl).logged
    id order.status status ("force:" ++ requester.username)

/-- What a driver brings to close a job: a photo, the recipient's code, or both. -/
structure DeliveryProof where
  /-- The storage key of the uploaded photo. -/
  photo : Option String
  deliveryCode : String
  notes : Option String
  deriving DecidableEq

/-- The code that was keyed in, without the blanks around it. -/
def DeliveryProof.submittedCode (proof : DeliveryProof) : Text := trim proof.deliveryCode.toList

/-- `verifyDeliveryCode`. -/
def verifyDeliveryCode (cfg : DispatchConfig) (board : Board) (id : Nat) (submitted : Text) :
    Except Failure Unit := do
  let order ← demand (board.order id) .noCodeIssued
  let issued ← demand (Payment.present order.deliveryCodeHash) .noCodeIssued
  require (order.deliveryCodeAttempts < deliveryCodeMaxAttempts) .tooManyAttempts
  -- Only the digits of what was typed are compared.
  let given := submitted.filter Char.isDigit
  require (!given.isEmpty) .noCodeGiven
  require (cfg.hashCode (String.ofList given) = issued)
    (.wrongCode (deliveryCodeMaxAttempts - (order.deliveryCodeAttempts + 1)))

/-- The proof a delivery rests on, once its code has been checked. -/
def proofMethod (cfg : DispatchConfig) (board : Board) (id : Nat) (proof : DeliveryProof) :
    Except Failure ProofMethod := do
  require (proof.photo.isSome || !proof.submittedCode.isEmpty) .proofRequired
  -- A photo alone will do; a code that is given has to be right.
  if proof.submittedCode.isEmpty then
    return .photo
  else
    verifyDeliveryCode cfg board id proof.submittedCode
    return if proof.photo.isSome then .photoAndCode else .code

/-- A stop of a run that has set out. -/
def Board.underway (board : Board) (stop : TripStop) : Bool :=
  (board.trip stop.tripId).any fun trip => trip.status = .active || trip.status = .completed

/-- The load that filled the run home: the nearest collected close to the drop, on the same run. -/
def Board.returnLoad (cfg : DispatchConfig) (board : Board) (order : DispatchOrder) : Option Nat := do
  let dropped ← order.delivery
  let drop ← board.stops.rows.find? fun stop =>
    stop.orderId = order.id && stop.kind = .drop && board.underway stop
  let apart := fun stop : TripStop => stop.place.map fun place => cfg.kmApart place dropped
  -- Pickups of other orders on the same run, within the radius of the drop.
  let near := board.stops.rows.filter fun stop =>
    stop.tripId = drop.tripId && stop.kind = .pickup && stop.orderId ≠ order.id &&
      (apart stop).any (· ≤ backfillRadiusKm)
  (near.insertionSort fun one other => (apart one).getD 0 ≤ (apart other).getD 0).head?.map
    TripStop.orderId

/-- An order closed on its proof: the wait at the drop and the credit for a filled return settled. -/
def DispatchOrder.confirmed (cfg : DispatchConfig) (board : Board) (order : DispatchOrder) :
    DispatchOrder :=
  let detention := order.toOrder.detentionForOrder cfg.rateOf (board.waitedSince order.id .arrived)
  let backfill := order.toOrder.backfillCreditForOrder (board.returnLoad cfg order)
  { order with toOrder := order.toOrder.delivered detention backfill }

/-- `confirmDelivery`. -/
def confirmDelivery (cfg : DispatchConfig) (board : Board) (requester : Requester) (id : Nat)
    (proof : DeliveryProof) : Except Failure Board := do
  -- The code is checked before the row is locked.
  let method ← proofMethod cfg board id proof
  let order ← demand (board.order id) .orderNotFound
  require (deliverableFrom.contains order.status) (.notArrived order.status)
  require (requester.role ≠ .driver || sameName cfg order.assignedTo requester.username) .notAssignee
  let confirmed := board.changeOrder id (fun order => order.confirmed cfg board) fun _ => rfl
  return { confirmed.logged id order.status .delivered requester.username with
    confirmations := board.confirmations ++ [
      { orderId := id, driverName := requester.username, photoKey := proof.photo
        notes := proof.notes, proofMethod := method }] }

/-- A refused confirmation: the guess that was wrong is committed, and everything else rolled back. -/
def afterRefusedProof (board : Board) (id : Nat) : Failure → Board
  | .wrongCode _ => board.changeOrder id
      (fun order => { order with deliveryCodeAttempts := order.deliveryCodeAttempts + 1 }) fun _ => rfl
  | _ => board

/-- The minutes an offer stands: half an hour, or what was asked for within bounds. -/
def offerMinutes (asked : Option ℚ) : ℚ :=
  match asked with
  | none => 30
  | some minutes => min (max minutes 5) 240

/-- `offerOrders`. -/
def offerOrders (board : Board) (requester : Requester) (orderIds : List Nat) (driverName : String)
    (expiresInMinutes : Option ℚ) : Except Failure Board := do
  allow dispatchRoles requester
  require (!orderIds.isEmpty) .offerInvalid
  let _ ← demand (board.registeredDriver driverName) .driverNotFound
  let refused := board.declines.filter fun decline =>
    decline.driverUsername = driverName && orderIds.contains decline.orderId
  -- One order that was declined holds up the whole offer.
  require refused.isEmpty (.alreadyDeclined (refused.map OfferDecline.orderId))
  let locked := board.pendingAmong orderIds
  require (locked.length = orderIds.length) .notOfferable
  require (unplacedAmong locked).isEmpty (.unplaced (unplacedAmong locked))
  let expiry := board.now + (offerMinutes expiresInMinutes * minute).floor.toNat
  return { board with
    orders := board.orders.updateWhere (fun order => orderIds.contains order.id)
      (fun order => { order with
        status := .offered, assignedTo := some driverName, offerExpiresAt := some expiry })
      fun _ => rfl }

/-- An offer to this driver that has not been answered. -/
def DispatchOrder.offeredTo (order : DispatchOrder) (driver : String) : Bool :=
  order.status = .offered && order.assignedTo = some driver

/-- `acceptOffer`: only an offer still standing, still this driver's and not yet lapsed is taken. -/
def acceptOffer (board : Board) (requester : Requester) (id : Nat) : Except Failure Board := do
  allow [.driver] requester
  let order ← demand (board.order id) .offerGone
  require (order.offeredTo requester.username && order.offerExpiresAt.all (board.now < ·)) .offerGone
  return (board.changeOrder id
    (fun order => { order with status := .assigned, offerExpiresAt := none }) fun _ => rfl).logged
    id .offered .assigned requester.username

/-- An offer taken back: the order waits for somebody else. -/
def DispatchOrder.released (order : DispatchOrder) : DispatchOrder :=
  { order with status := .pending, assignedTo := none, offerExpiresAt := none }

/-- `declineOffer`. A refusal is kept, and a second one replaces its reason. -/
def declineOffer (board : Board) (requester : Requester) (id : Nat) (reason : Option String) :
    Except Failure Board := do
  allow [.driver] requester
  let order ← demand (board.order id) .offerGone
  require (order.offeredTo requester.username) .offerGone
  -- A second refusal replaces the first.
  let kept := board.declines.filter fun decline =>
    ¬ (decline.orderId = id ∧ decline.driverUsername = requester.username)
  return { (board.changeOrder id DispatchOrder.released fun _ => rfl).logged
      id .offered .pending requester.username with
    declines := kept ++ [{ orderId := id, driverUsername := requester.username, reason := reason }] }

/-- An offer whose time has run out. -/
def Board.lapsed (board : Board) (order : DispatchOrder) : Bool :=
  order.status = .offered && order.offerExpiresAt.any (· ≤ board.now)

/-- The sweep that puts lapsed offers back on the board. -/
def expireJobOffers (board : Board) : Board :=
  { board with
    orders := board.orders.updateWhere board.lapsed DispatchOrder.released fun _ => rfl
    logs := board.logs ++ (board.orders.rows.filter board.lapsed).map fun order =>
      { orderId := order.id, previousStatus := .offered, newStatus := .pending
        changedBy := "offer-expiry", changedAt := board.now } }

section
variable {cfg : DispatchConfig} {board later : Board} {requester : Requester} {id : Nat}

/-- What an accepted booking of the desk has passed, and the row it inserts. -/
theorem createOrder_accepted {request : NewOrder} : createOrder board requester request = .ok later ↔
    dispatchRoles.contains requester.role = true ∧ isValidWeightKg request.weightKg = true ∧
      request.delivery.isValid = true ∧ ∃ priced, request.pricing = .ok priced ∧
        { board with orders := board.orders.insert (request.row priced) fun _ => rfl } = later := by
  -- The handler is a row of checks, and an INSERT behind the last of them.
  unfold createOrder
  simp only [bind_ok, allow_ok, require_ok, mapError_ok, pure_ok, exists_const]

/-- What an accepted booking of a customer has passed. -/
theorem publicCreateOrder_accepted {request : NewBooking} : publicCreateOrder board request = .ok later ↔
    isValidWeightKg request.weightKg = true ∧ ∃ priced, request.pricing = .ok priced ∧
      { board with orders := board.orders.insert (request.row priced) fun _ => rfl } = later := by
  -- The handler is two checks and an INSERT.
  unfold publicCreateOrder
  simp only [bind_ok, require_ok, mapError_ok, pure_ok, exists_const]

/-- What an accepted placement has passed, and what it makes of the order. -/
theorem placeOneOrder_accepted {pickup delivery : Point} {pricing : Except PricingError Quote} :
    placeOneOrder board requester id pickup delivery pricing = .ok later ↔
      dispatchRoles.contains requester.role = true ∧ (pickup.isValid && delivery.isValid) = true ∧
        ∃ order, board.order id = some order ∧ order.paymentCommitted = false ∧
          board.changeOrder id (fun order => { order with
            toOrder := order.toOrder.placed pricing, pickup := some pickup, delivery := some delivery })
            (fun _ => placed_id _ _) = later := by
  -- The handler is a row of checks, and an UPDATE behind the last of them.
  unfold placeOneOrder
  simp only [bind_ok, allow_ok, require_ok, demand_ok, pure_ok, exists_const, Bool.not_eq_true']

/-- What an accepted assignment has passed: every gate of a bundle, for the driver and the vehicle they hold. -/
theorem assignOrderBundle_accepted {orderIds : List Nat} {driverName : String} :
    assignOrderBundle cfg board requester orderIds driverName = .ok later ↔
      dispatchRoles.contains requester.role = true ∧ (!orderIds.isEmpty) = true ∧
        trim driverName.toList ≠ [] ∧ ∃ driver, board.registeredDriver driverName = some driver ∧
        ∃ vehicle, board.vehicleOf driver.id = some vehicle ∧ isDriverVerified board driverName = true ∧
          cashHoldFor cfg board driverName = none ∧ (board.pendingAmong orderIds).length = orderIds.length ∧
          (unplacedAmong (board.pendingAmong orderIds)).isEmpty = true ∧
          (∀ limit, vehicle.maxWeightKg = some limit →
            (board.currentLoad vehicle.id none + totalWeight (board.pendingAmong orderIds) : ℚ) ≤ limit) ∧
          { board with
            orders := board.orders.updateWhere (fun order => orderIds.contains order.id)
              (fun order => order.assigned driverName vehicle.id) fun _ => rfl
            logs := board.logs ++ orderIds.map fun id =>
              { orderId := id, previousStatus := .pending, newStatus := .assigned
                changedBy := requester.username, changedAt := board.now } } = later := by
  -- The handler is a row of checks, an UPDATE of the bundle, and its entries in the log.
  unfold assignOrderBundle
  simp only [bind_ok, allow_ok, require_ok, demand_ok, refuse_ok, checkCapacity_ok, pure_ok, exists_const,
    decide_eq_true_eq]

/-- What an accepted reassignment has passed: back to the queue under a blank name, or through the gates of another. -/
theorem reassignOrder_accepted {driverName : Option String} :
    reassignOrder cfg board requester id driverName = .ok later ↔
      dispatchRoles.contains requester.role = true ∧ ∃ order, board.order id = some order ∧
        order.isPlaced = true ∧ order.status = .assigned ∧
        ((String.ofList (trim (driverName.getD "").toList) = "" ∧
            (board.changeOrder id DispatchOrder.unassigned DispatchOrder.unassigned_id).logged
              id .assigned .pending requester.username = later) ∨
          String.ofList (trim (driverName.getD "").toList) ≠ "" ∧
            (!sameName cfg order.assignedTo (String.ofList (trim (driverName.getD "").toList))) = true ∧
            ∃ driver, board.registeredDriver (String.ofList (trim (driverName.getD "").toList)) = some driver ∧
            ∃ vehicle, board.vehicleOf driver.id = some vehicle ∧
              isDriverVerified board (String.ofList (trim (driverName.getD "").toList)) = true ∧
              (∀ limit, vehicle.maxWeightKg = some limit →
                (board.currentLoad vehicle.id (some id) + order.weightKg : ℚ) ≤ limit) ∧
              (board.changeOrder id (fun order => { order with
                assignedTo := some (String.ofList (trim (driverName.getD "").toList)), vehicleId := some vehicle.id })
                fun _ => rfl).logged id .assigned .assigned requester.username = later) := by
  unfold reassignOrder
  simp only [bind_ok, allow_ok, require_ok, demand_ok, exists_const, decide_eq_true_eq]
  -- Whether a driver is named decides which half of the handler runs.
  by_cases blank : String.ofList (trim (driverName.getD "").toList) = ""
  · simp only [blank, if_true, pure_ok, ne_eq, not_true_eq_false, false_and, or_false, true_and]
  · simp only [blank, if_false, bind_ok, require_ok, demand_ok, checkCapacity_ok, pure_ok, exists_const, false_and,
      false_or, ne_eq, not_false_eq_true, true_and]

/-- What a change of status has passed before its UPDATE. -/
theorem statusChange_accepted {asked : Option OrderStatus} {order : DispatchOrder} {status : OrderStatus} :
    statusChange cfg board requester id asked = .ok (order, status) ↔
      asked = some status ∧ (requester.role ≠ .driver || driverAllowedStatuses.contains status) = true ∧
        board.order id = some order ∧
        (requester.role ≠ .driver || sameName cfg order.assignedTo requester.username) = true ∧
        canTransition order.status status = true ∧
        (!(status = .cancelled && order.paymentStatus = .paid)) = true := by
  -- The checks are made in this order, and hand on the row and the status they were made of.
  unfold statusChange
  simp only [bind_ok, demand_ok, require_ok, pure_ok, exists_const, Prod.mk.injEq]
  constructor
  · rintro ⟨_, rfl, allowed, _, there, theirs, moves, unpaid, rfl, rfl⟩
    exact ⟨rfl, allowed, there, theirs, moves, unpaid⟩
  · rintro ⟨rfl, allowed, there, theirs, moves, unpaid⟩
    exact ⟨status, rfl, allowed, order, there, theirs, moves, unpaid, rfl, rfl⟩

/-- What an accepted update of a status has passed, and what it makes of the order. -/
theorem updateOrderStatus_accepted {asked : Option OrderStatus} {code : String} :
    updateOrderStatus cfg board requester id asked code = .ok later ↔
      ∃ order status, statusChange cfg board requester id asked = .ok (order, status) ∧
        mayRecord requester status = true ∧
        (board.changeOrder id (fun order => order.statusUpdated cfg board status code)
          fun _ => statusUpdated_id ..).logged id order.status status requester.username = later := by
  -- Behind the checks the arrival of a driver is asked about once more, and then all is written.
  unfold updateOrderStatus
  simp only [bind_ok, require_ok, pure_ok, exists_const, Prod.exists]

/-- Refused by its checks, an update of a status is refused for the same reason. -/
theorem updateOrderStatus_refused {asked : Option OrderStatus} {code : String} {failure : Failure}
    (refused : statusChange cfg board requester id asked = .error failure) :
    updateOrderStatus cfg board requester id asked code = .error failure := by
  -- The checks come first, and what they raise ends the handler.
  unfold updateOrderStatus
  rw [refused]
  rfl

/-- What an accepted force of a status has passed. -/
theorem forceOrderStatus_accepted {asked : Option OrderStatus} {reason : String} :
    forceOrderStatus board requester id asked reason = .ok later ↔
      requester.role = .admin ∧ ∃ status, asked = some status ∧ 10 ≤ (trim reason.toList).length ∧
        ∃ order, board.order id = some order ∧ order.status ≠ status ∧
          (board.changeOrder id (.movedTo status) fun _ => rfl).logged
            id order.status status ("force:" ++ requester.username) = later := by
  -- The handler asks who, where to, why and from where, and then writes.
  unfold forceOrderStatus
  simp only [bind_ok, require_ok, demand_ok, pure_ok, exists_const, decide_eq_true_eq]

/-- What an accepted confirmation has passed: its proof, an order at its door, and whose order it is. -/
theorem confirmDelivery_accepted {proof : DeliveryProof} :
    confirmDelivery cfg board requester id proof = .ok later ↔
      ∃ method, proofMethod cfg board id proof = .ok method ∧ ∃ order, board.order id = some order ∧
        deliverableFrom.contains order.status = true ∧
        (requester.role ≠ .driver || sameName cfg order.assignedTo requester.username) = true ∧
        { (board.changeOrder id (fun order => order.confirmed cfg board) fun _ => rfl).logged
            id order.status .delivered requester.username with
          confirmations := board.confirmations ++ [
            { orderId := id, driverName := requester.username, photoKey := proof.photo
              notes := proof.notes, proofMethod := method }] } = later := by
  -- The proof is judged first, then the order, and everything is written in one transaction.
  unfold confirmDelivery
  simp only [bind_ok, require_ok, demand_ok, pure_ok, exists_const]

/-- What an accepted offer has passed. -/
theorem offerOrders_accepted {orderIds : List Nat} {driverName : String} {minutes : Option ℚ} :
    offerOrders board requester orderIds driverName minutes = .ok later ↔
      dispatchRoles.contains requester.role = true ∧ (!orderIds.isEmpty) = true ∧
        ∃ driver, board.registeredDriver driverName = some driver ∧
        (board.declines.filter fun decline =>
          decline.driverUsername = driverName && orderIds.contains decline.orderId).isEmpty = true ∧
        (board.pendingAmong orderIds).length = orderIds.length ∧
        (unplacedAmong (board.pendingAmong orderIds)).isEmpty = true ∧
        { board with
          orders := board.orders.updateWhere (fun order => orderIds.contains order.id)
            (fun order => { order with
              status := .offered, assignedTo := some driverName
              offerExpiresAt := some (board.now + (offerMinutes minutes * minute).floor.toNat) })
            fun _ => rfl } = later := by
  -- The rows are locked and counted behind the checks of the request and of the driver.
  unfold offerOrders
  simp only [bind_ok, allow_ok, require_ok, demand_ok, pure_ok, exists_const, decide_eq_true_eq]

/-- What an accepted acceptance has passed: the offer is this driver's, and stands. -/
theorem acceptOffer_accepted : acceptOffer board requester id = .ok later ↔
    [Role.driver].contains requester.role = true ∧ ∃ order, board.order id = some order ∧
      ((order.status = .offered ∧ order.assignedTo = some requester.username) ∧
        order.offerExpiresAt.all (board.now < ·) = true) ∧
      (board.changeOrder id (fun order => { order with status := .assigned, offerExpiresAt := none })
        fun _ => rfl).logged id .offered .assigned requester.username = later := by
  -- Whose offer it is and whether it stands are asked of the locked row.
  unfold acceptOffer DispatchOrder.offeredTo
  simp only [bind_ok, allow_ok, require_ok, demand_ok, pure_ok, exists_const, Bool.and_eq_true, decide_eq_true_eq]

/-- What an accepted refusal of an offer has passed. -/
theorem declineOffer_accepted {reason : Option String} : declineOffer board requester id reason = .ok later ↔
    [Role.driver].contains requester.role = true ∧ ∃ order, board.order id = some order ∧
      (order.status = .offered ∧ order.assignedTo = some requester.username) ∧
      { (board.changeOrder id DispatchOrder.released fun _ => rfl).logged
          id .offered .pending requester.username with
        declines := (board.declines.filter fun decline =>
            ¬ (decline.orderId = id ∧ decline.driverUsername = requester.username)) ++
          [{ orderId := id, driverUsername := requester.username, reason := reason }] } = later := by
  -- Whose offer it is is asked of the locked row.
  unfold declineOffer DispatchOrder.offeredTo
  simp only [bind_ok, allow_ok, require_ok, demand_ok, pure_ok, exists_const, Bool.and_eq_true, decide_eq_true_eq]

end

end Freight.Dispatch
