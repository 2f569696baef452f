import Freight.Dispatch.Guessing
import Freight.Library.Script

/-! The order endpoints on their pooled connections, a statement at a time, with every way out of them. -/

namespace Freight.Dispatch.Handler

/-- What may fail while an order endpoint is at work: its statements, and the store of the photos. -/
inductive Hazard where
  | begin_
  | selectDriver
  | lockVehicle
  | selectDocuments
  | selectCashOwed
  | selectRefused
  | lockOrders
  | selectLoad
  | updateOrders
  | insertLogs
  | insertDecline
  | selectArrival
  | selectRate
  | chargeWaiting
  | selectCode
  | storeCode
  | lockCode
  | countAttempt
  | commitAttempt
  | selectPosition
  | insertConfirmation
  | selectBackfill
  | commit
  /-- `uploadDeliveryPhoto`. -/
  | upload
  /-- `toSignedUrl`. -/
  | signing
  deriving DecidableEq

/-- What an endpoint answers. -/
inductive Answer where
  | ok
  | refused (failure : Failure)
  | notForced (failure : ForceFailure)
  /-- The 500 of its catch block. -/
  | failed

section

variable (cfg : DispatchConfig) (fails : Hazard → Bool)

/-- What the capacity check reads, where the vehicle has a recorded limit. -/
def loadOf (vehicle : FleetVehicle) (except : Option Nat) : Script Board Answer ℚ≥0 :=
  match vehicle.maxWeightKg with
  | none => pure 0
  | some _ => do
    let board ← Script.read (fails .selectLoad)
    return board.currentLoad vehicle.id except

/-- An entry in the history of each of some orders. -/
def logEach (ids : List Nat) (previous new : OrderStatus) (changedBy : String) (board : Board) : Board :=
  { board with logs := board.logs ++ ids.map fun id =>
      { orderId := id, previousStatus := previous, newStatus := new, changedBy := changedBy
        changedAt := board.now } }

/-- An assigned order is the same order still. -/
theorem assigned_id (driver : String) (vehicle : Nat) (order : DispatchOrder) :
    (order.assigned driver vehicle).id = order.id := rfl

/-- An order with another driver, in their vehicle. -/
def reassigned (driver : String) (vehicle : Nat) (order : DispatchOrder) : DispatchOrder :=
  { order with assignedTo := some driver, vehicleId := some vehicle }

/-- It is the same order still. -/
theorem reassigned_id (driver : String) (vehicle : Nat) (order : DispatchOrder) :
    (reassigned driver vehicle order).id = order.id := rfl

/-- `assignOrderBundle`. -/
def assignOrderBundle (requester : Requester) (orderIds : List Nat) (driverName : String) :
    Script Board Answer Answer := do
  Script.orAnswer (allow dispatchRoles requester) .refused
  Script.orAnswer (require (!orderIds.isEmpty) .assignPayload) .refused
  Script.orAnswer (require (trim driverName.toList ≠ []) .driverNotSpecified) .refused
  -- What is refused above is refused without a transaction.
  Script.begins (fails .begin_)
  let board ← Script.read (fails .selectDriver)
  let driver ← Script.orRollback
    (demand (board.registeredDriver driverName) (.notRegistered driverName)) .refused
  -- The vehicle is locked before its load is added up.
  let board ← Script.read (fails .lockVehicle)
  let vehicle ← Script.orRollback (demand (board.vehicleOf driver.id) (.noVehicle driverName)) .refused
  let board ← Script.read (fails .selectDocuments)
  Script.orRollback (require (isDriverVerified board driverName) (.unverified driverName)) .refused
  let board ← Script.read (fails .selectCashOwed)
  Script.orRollback (refuse (cashHoldFor cfg board driverName)) .refused
  let board ← Script.read (fails .lockOrders)
  let found := board.pendingAmong orderIds
  Script.orRollback (require (found.length = orderIds.length) .assignConflict) .refused
  Script.orRollback (require (unplacedAmong found).isEmpty (.unplaced (unplacedAmong found))) .refused
  let load ← loadOf fails vehicle none
  Script.orRollback (checkCapacity vehicle load (totalWeight found)) .refused
  -- Every gate is behind us, and the orders are written.
  let _ ← Script.statement (fails .updateOrders) fun board => { board with
    orders := board.orders.updateWhere (fun order => orderIds.contains order.id)
      (fun order => order.assigned driverName vehicle.id) (assigned_id driverName vehicle.id) }
  let _ ← Script.statement (fails .insertLogs)
    (logEach orderIds .pending .assigned requester.username)
  Script.commit (fails .commit)
  return .ok

/-- `reassignOrder`. -/
def reassignOrder (requester : Requester) (id : Nat) (driverName : Option String) :
    Script Board Answer Answer := do
  Script.orAnswer (allow dispatchRoles requester) .refused
  Script.begins (fails .begin_)
  let board ← Script.read (fails .lockOrders)
  let order ← Script.orRollback (demand (board.order id) .orderNotFound) .refused
  Script.orRollback (require order.isPlaced (.unplaced [id])) .refused
  Script.orRollback (require (order.status = .assigned) (.reassignState order.status)) .refused
  let nextDriver := String.ofList (trim (driverName.getD "").toList)
  -- Without a name the order goes back to the pool.
  if nextDriver = "" then do
    let _ ← Script.statement (fails .updateOrders) fun board =>
      board.changeOrder id DispatchOrder.unassigned DispatchOrder.unassigned_id
    let _ ← Script.statement (fails .insertLogs) fun board =>
      board.logged id .assigned .pending requester.username
    Script.commit (fails .commit)
    return .ok
  else do
    Script.orRollback (require (!sameName cfg order.assignedTo nextDriver)
      (.sameDriver order.assignedTo)) .refused
    let board ← Script.read (fails .selectDriver)
    let driver ← Script.orRollback
      (demand (board.registeredDriver nextDriver) (.notRegistered nextDriver)) .refused
    let board ← Script.read (fails .lockVehicle)
    let vehicle ← Script.orRollback
      (demand (board.vehicleOf driver.id) (.noVehicle nextDriver)) .refused
    let board ← Script.read (fails .selectDocuments)
    Script.orRollback (require (isDriverVerified board nextDriver) (.unverified nextDriver)) .refused
    -- Its own weight is left out of the load it is added to.
    let load ← loadOf fails vehicle (some id)
    Script.orRollback (checkCapacity vehicle load order.weightKg) .refused
    let _ ← Script.statement (fails .updateOrders) fun board =>
      board.changeOrder id (reassigned nextDriver vehicle.id) (reassigned_id nextDriver vehicle.id)
    let _ ← Script.statement (fails .insertLogs) fun board =>
      board.logged id .assigned .assigned requester.username
    Script.commit (fails .commit)
    return .ok

/-- `detentionForOrder`: the arrival that was logged, and the card the job was quoted on. -/
def detentionForOrder (id : Nat) (arrival : OrderStatus) : Script Board Answer (Option Detention) := do
  let board ← Script.read (fails .selectArrival)
  match board.order id with
  | none => return none
  | some order =>
    let waited := board.waitedSince id arrival
    -- The card is only read where there is a wait to be charged by it.
    if waited.isSome ∧ order.pricingRateId.isSome then do
      let _ ← Script.read (fails .selectRate)
      return order.toOrder.detentionForOrder cfg.rateOf waited
    else return order.toOrder.detentionForOrder cfg.rateOf waited

/-- The charge for a wait at the pickup, worked out and written as the order leaves it. -/
def chargePickup (id : Nat) : Script Board Answer Unit := do
  let waited ← detentionForOrder cfg fails id .atPickup
  match waited with
  -- Nothing is written where there is nothing to charge.
  | none => return ()
  | some waited => do
    let _ ← Script.statement (fails .chargeWaiting) fun board => board.changeOrder id
      (fun order => { order with toOrder := order.toOrder.pickupCharged waited }) fun _ => rfl
    return ()

/-- `issueDeliveryCode`. -/
def issueDeliveryCode (id : Nat) (code : String) : Script Board Answer Unit := do
  let board ← Script.read (fails .selectCode)
  match board.order id with
  | none => return ()
  | some order =>
    let phone := (Payment.present order.recipientPhone).or (Payment.present order.customerPhone)
    -- A code is issued once, and only to somebody who can be texted.
    if (Payment.present order.deliveryCodeHash).isNone && phone.isSome then do
      let _ ← Script.statement (fails .storeCode) fun board => board.changeOrder id
        (fun order => { order with
          deliveryCodeHash := some (cfg.hashCode code), deliveryCodeAttempts := 0 }) fun _ => rfl
      return ()
    else return ()

/-- `updateOrderStatus`. -/
def updateOrderStatus (requester : Requester) (id : Nat) (status : Option OrderStatus)
    (code : String) : Script Board Answer Answer := do
  let status ← Script.orAnswer (demand status .invalidStatus) .refused
  Script.orAnswer (require (requester.role ≠ .driver || driverAllowedStatuses.contains status)
    (.driverForbidden status)) .refused
  Script.begins (fails .begin_)
  let board ← Script.read (fails .lockOrders)
  let order ← Script.orRollback (demand (board.order id) .orderNotFound) .refused
  Script.orRollback (require (requester.role ≠ .driver ||
    sameName cfg order.assignedTo requester.username) .notAssignee) .refused
  Script.orRollback (require (canTransition order.status status)
    (.outOfTable order.status status)) .refused
  Script.orRollback (require (!(status = .cancelled && order.paymentStatus = .paid)) .cancelPaid) .refused
  let _ ← Script.statement (fails .updateOrders) fun board =>
    board.changeOrder id (.movedTo status) (DispatchOrder.movedTo_id status)
  -- This one answers without a ROLLBACK.
  Script.orAnswer (require (mayRecord requester status) .arrivalDriverOnly) .refused
  let _ ← Script.caught <|
    if order.status = .atPickup ∧ status ≠ .atPickup then chargePickup cfg fails id else pure ()
  let _ ← Script.caught <|
    if status = .inTransit ∨ status = .arrived then issueDeliveryCode cfg fails id code else pure ()
  let _ ← Script.statement (fails .insertLogs) fun board =>
    board.logged id order.status status requester.username
  Script.commit (fails .commit)
  return .ok

/-- `forceOrderStatus`. -/
def forceOrderStatus (requester : Requester) (id : Nat) (status : Option OrderStatus)
    (reason : String) : Script Board Answer Answer := do
  Script.orAnswer (require (requester.role = .admin) .forbidden) .notForced
  let status ← Script.orAnswer (demand status .invalidStatus) .notForced
  Script.orAnswer (require (10 ≤ (trim reason.toList).length) .reasonRequired) .notForced
  Script.begins (fails .begin_)
  let board ← Script.read (fails .lockOrders)
  let order ← Script.orRollback (demand (board.order id) .orderNotFound) .notForced
  Script.orRollback (require (order.status ≠ status) .noChange) .notForced
  let _ ← Script.statement (fails .updateOrders) fun board =>
    board.changeOrder id (.movedTo status) (DispatchOrder.movedTo_id status)
  let _ ← Script.statement (fails .insertLogs) fun board =>
    board.logged id order.status status ("force:" ++ requester.username)
  Script.commit (fails .commit)
  -- The emission names a variable that does not exist, so nothing after it is reached.
  Script.throws

/-- A code that has been checked, with the attempt counted and kept where it was wrong. -/
def checkCode (id : Nat) (submitted : Text) : Script Board Answer Unit := do
  let board ← Script.read (fails .lockCode)
  match verifyDeliveryCode cfg board id submitted with
  | .ok _ => return ()
  | .error failure => do
    let _ ← match failure with
      | .wrongCode _ => do
        let _ ← Script.statement (fails .countAttempt) (Board.guessCounted id)
        pure ()
      | _ => pure ()
    -- COMMIT, not ROLLBACK: the failed attempt has to survive.
    let _ ← Script.caught (Script.commit (fails .commitAttempt))
    Script.answer (.refused failure)

/-- The driver's last known position, which a delivery is only compared with. -/
def selectPosition : Script Board Answer Unit := do
  let _ ← Script.read (fails .selectPosition)
  return ()

/-- `backfillCreditForOrder`. -/
def backfillCreditForOrder (id : Nat) : Script Board Answer (Option Order.Backfill) := do
  let board ← Script.read (fails .selectBackfill)
  return (board.order id).bind fun order =>
    order.toOrder.backfillCreditForOrder (board.returnLoad cfg order)

/-- What a delivery is closed on, once its code has been found right. -/
def methodOf (proof : DeliveryProof) : ProofMethod :=
  if proof.submittedCode.isEmpty then .photo
  else if proof.photo.isSome then .photoAndCode else .code

/-- A delivery that is confirmed, in `delivery_confirmations`. -/
def withConfirmation (requester : Requester) (id : Nat) (proof : DeliveryProof) (board : Board) : Board :=
  { board with
    confirmations := board.confirmations ++ [
      { orderId := id, driverName := requester.username, photoKey := proof.photo
        notes := proof.notes, proofMethod := methodOf proof }] }

/-- `confirmDelivery`. -/
def confirmDelivery (requester : Requester) (id : Nat) (proof : DeliveryProof) :
    Script Board Answer Answer := do
  Script.orRollback (require (proof.photo.isSome || !proof.submittedCode.isEmpty) .proofRequired) .refused
  Script.begins (fails .begin_)
  Script.when (!proof.submittedCode.isEmpty) (checkCode cfg fails id proof.submittedCode)
  let board ← Script.read (fails .lockOrders)
  let order ← Script.orRollback (demand (board.order id) .orderNotFound) .refused
  Script.orRollback (require (deliverableFrom.contains order.status) (.notArrived order.status)) .refused
  Script.orRollback (require (requester.role ≠ .driver ||
    sameName cfg order.assignedTo requester.username) .notAssignee) .refused
  Script.when (proof.photo.isSome && fails .upload) Script.throws
  Script.when order.delivery.isSome (selectPosition fails)
  let _ ← Script.statement (fails .insertConfirmation) (withConfirmation requester id proof)
  let backfill ← Script.caught (backfillCreditForOrder cfg fails id)
  let detention ← Script.caught (detentionForOrder cfg fails id .arrived)
  let _ ← Script.statement (fails .updateOrders) fun board => board.changeOrder id
    (fun order => { order with toOrder := order.toOrder.delivered detention.join backfill.join })
    fun _ => rfl
  let _ ← Script.statement (fails .insertLogs) fun board =>
    board.logged id order.status .delivered requester.username
  Script.commit (fails .commit)
  -- The photo is signed for the answer when everything is committed.
  Script.when (proof.photo.isSome && fails .signing) Script.throws
  return .ok

/-- `offerOrders`. -/
def offerOrders (requester : Requester) (orderIds : List Nat) (driverName : String)
    (expiresInMinutes : Option ℚ) : Script Board Answer Answer := do
  Script.orAnswer (allow dispatchRoles requester) .refused
  Script.orAnswer (require (!orderIds.isEmpty) .offerInvalid) .refused
  Script.begins (fails .begin_)
  let board ← Script.read (fails .selectDriver)
  let _ ← Script.orRollback (demand (board.registeredDriver driverName) .driverNotFound) .refused
  let board ← Script.read (fails .selectRefused)
  -- What a driver has declined is not offered to them again.
  let refused := board.declines.filter fun decline =>
    decline.driverUsername = driverName && orderIds.contains decline.orderId
  Script.orRollback (require refused.isEmpty (.alreadyDeclined (refused.map OfferDecline.orderId))) .refused
  let board ← Script.read (fails .lockOrders)
  let locked := board.pendingAmong orderIds
  Script.orRollback (require (locked.length = orderIds.length) .notOfferable) .refused
  Script.orRollback (require (unplacedAmong locked).isEmpty (.unplaced (unplacedAmong locked))) .refused
  -- The offers run out together.
  let _ ← Script.statement (fails .updateOrders) fun board => { board with
    orders := board.orders.updateWhere (fun order => orderIds.contains order.id)
      (fun order => { order with
        status := .offered, assignedTo := some driverName
        offerExpiresAt := some (board.now + (offerMinutes expiresInMinutes * minute).floor.toNat) })
      fun _ => rfl }
  Script.commit (fails .commit)
  return .ok

/-- An offer this driver can still take. -/
def takeable (board : Board) (requester : Requester) (order : DispatchOrder) : Bool :=
  order.offeredTo requester.username && order.offerExpiresAt.all (board.now < ·)

/-- `acceptOffer`: one UPDATE takes the offer, if it can still be taken. -/
def acceptOffer (requester : Requester) (id : Nat) : Script Board Answer Answer := do
  Script.orAnswer (allow [.driver] requester) .refused
  Script.begins (fails .begin_)
  let board ← Script.statement (fails .updateOrders) fun board => board.changeOrder id
    -- The condition is in the UPDATE itself, so an offer is taken once.
    (fun order => if takeable board requester order
      then { order with status := .assigned, offerExpiresAt := none } else order)
    fun order => by split <;> rfl
  let order ← Script.orRollback (demand (board.order id) .offerGone) .refused
  Script.orRollback (require (takeable board requester order) .offerGone) .refused
  let _ ← Script.statement (fails .insertLogs) fun board =>
    board.logged id .offered .assigned requester.username
  Script.commit (fails .commit)
  return .ok

/-- `declineOffer`. -/
def declineOffer (requester : Requester) (id : Nat) (reason : Option String) :
    Script Board Answer Answer := do
  Script.orAnswer (allow [.driver] requester) .refused
  Script.begins (fails .begin_)
  let board ← Script.statement (fails .updateOrders) fun board => board.changeOrder id
    (fun order => if order.offeredTo requester.username then order.released else order)
    fun order => by split <;> rfl
  let order ← Script.orRollback (demand (board.order id) .offerGone) .refused
  Script.orRollback (require (order.offeredTo requester.username) .offerGone) .refused
  -- A second refusal of the same offer replaces the first.
  let _ ← Script.statement (fails .insertDecline) fun board => { board with
    declines := (board.declines.filter fun decline =>
        ¬ (decline.orderId = id ∧ decline.driverUsername = requester.username)) ++
      [{ orderId := id, driverUsername := requester.username, reason := reason }] }
  let _ ← Script.statement (fails .insertLogs) fun board =>
    board.logged id .offered .pending requester.username
  Script.commit (fails .commit)
  return .ok

end

/-- A request to one of the order endpoints. -/
inductive Request where
  | assignOrderBundle (requester : Requester) (orderIds : List Nat) (driverName : String)
  | reassignOrder (requester : Requester) (id : Nat) (driverName : Option String)
  | updateOrderStatus (requester : Requester) (id : Nat) (status : Option OrderStatus) (code : String)
  | forceOrderStatus (requester : Requester) (id : Nat) (status : Option OrderStatus) (reason : String)
  | confirmDelivery (requester : Requester) (id : Nat) (proof : DeliveryProof)
  | offerOrders (requester : Requester) (orderIds : List Nat) (driverName : String)
      (expiresInMinutes : Option ℚ)
  | acceptOffer (requester : Requester) (id : Nat)
  | declineOffer (requester : Requester) (id : Nat) (reason : Option String)

/-- The body of the endpoint a request is for. -/
def Request.body (cfg : DispatchConfig) (fails : Hazard → Bool) : Request → Script Board Answer Answer
  | .assignOrderBundle requester orderIds driverName =>
    Handler.assignOrderBundle cfg fails requester orderIds driverName
  | .reassignOrder requester id driverName => Handler.reassignOrder cfg fails requester id driverName
  | .updateOrderStatus requester id status code =>
    Handler.updateOrderStatus cfg fails requester id status code
  | .forceOrderStatus requester id status reason =>
    Handler.forceOrderStatus fails requester id status reason
  | .confirmDelivery requester id proof => Handler.confirmDelivery cfg fails requester id proof
  | .offerOrders requester orderIds driverName expiresInMinutes =>
    Handler.offerOrders fails requester orderIds driverName expiresInMinutes
  | .acceptOffer requester id => Handler.acceptOffer fails requester id
  | .declineOffer requester id reason => Handler.declineOffer fails requester id reason

end Freight.Dispatch.Handler
