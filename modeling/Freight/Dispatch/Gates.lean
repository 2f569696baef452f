import Freight.Dispatch.Board
import Freight.Library.Checks

/-! What is asked of a driver, a vehicle and an order before one is given to the other. -/

namespace Freight.Dispatch

/-- Why a request was refused, with whatever its message names. -/
inductive Failure where
  | forbidden
  | assignPayload
  | driverNotSpecified
  | notRegistered (driver : String)
  | noVehicle (driver : String)
  | unverified (driver : String)
  | cashOwing (driver : String) (total : ℚ) (currency : Option Text) (limit : ℚ)
  | assignConflict
  | unplaced (ids : List Nat)
  | capacityExceeded (total limit current : ℚ)
  | orderNotFound
  | invalidStatus
  | reassignState (status : OrderStatus)
  | sameDriver (driver : Option String)
  | driverForbidden (status : OrderStatus)
  | notAssignee
  | outOfTable (source target : OrderStatus)
  | cancelPaid
  | arrivalDriverOnly
  | offerInvalid
  | driverNotFound
  | alreadyDeclined (ids : List Nat)
  | notOfferable
  | offerGone
  | proofRequired
  | noCodeIssued
  | tooManyAttempts
  | noCodeGiven
  | wrongCode (attemptsLeft : Nat)
  | notArrived (status : OrderStatus)
  | weight
  | coordinates
  | pricing (refusal : PricingError)
  | paymentCommitted (status : PaymentStatus)
  | tripNoOrders
  | tripOrderIds
  | tripDriverNotFound (driver : String)
  | tripDriverSuspended (driver : String)
  | tripDriverNoVehicle (driver : String)
  | tripDriverUnverified (driver : String)
  | tripOrderNotFound
  | tripNotPlannable (id : Nat) (status : OrderStatus)
  | tripAlreadyPlanned (id : Nat)
  | tripStatus
  | tripNotFound
  | tripCompleted
  | tripDriverBusy
  | tripNothingToOptimise
  | tripNoSequence
  | tripSequenceMismatch
  | stopStatus
  | stopReason
  | stopNotFound
  | stopForbidden
  | stopClosed
  /-- A statement broke a constraint, and the transaction was rolled back. -/
  | database

/-- The HTTP status and the code a refusal is sent with. -/
def Failure.response : Failure → Nat × String
  | .forbidden => (403, "AUTH_FORBIDDEN")
  -- Assigning a bundle.
  | .assignPayload | .driverNotSpecified => (400, "ORDERS_ASSIGN_INVALID_PAYLOAD")
  | .notRegistered _ => (400, "ORDERS_ASSIGN_INVALID_DRIVER")
  | .noVehicle _ => (409, "ORDERS_ASSIGN_NO_VEHICLE")
  | .unverified _ => (409, "ORDERS_ASSIGN_DRIVER_UNVERIFIED")
  | .cashOwing .. => (409, "ORDERS_ASSIGN_CASH_OWING")
  | .assignConflict => (409, "ORDERS_ASSIGN_CONFLICT")
  | .unplaced _ => (409, "ORDERS_ASSIGN_UNPLACED")
  | .capacityExceeded .. => (409, "ORDERS_ASSIGN_CAPACITY_EXCEEDED")
  -- One order: its reassignment and its status.
  | .orderNotFound => (404, "ORDERS_NOT_FOUND")
  | .invalidStatus => (400, "ORDERS_INVALID_STATUS")
  | .reassignState _ => (409, "ORDERS_REASSIGN_INVALID_STATE")
  | .sameDriver _ => (400, "ORDERS_REASSIGN_SAME_DRIVER")
  | .driverForbidden _ => (403, "ORDERS_STATUS_DRIVER_FORBIDDEN")
  | .notAssignee => (403, "ORDERS_STATUS_FORBIDDEN")
  | .outOfTable source target =>
    match refusalFor source target with
    | .needsProof => (409, "ORDERS_STATUS_NEEDS_PROOF")
    | .terminal => (409, "ORDERS_STATUS_TERMINAL")
    | .outOfSequence => (409, "ORDERS_STATUS_OUT_OF_SEQUENCE")
  | .cancelPaid => (409, "ORDERS_CANCEL_ALREADY_PAID")
  | .arrivalDriverOnly => (403, "ORDERS_ARRIVAL_DRIVER_ONLY")
  -- Offers.
  | .offerInvalid => (400, "ORDERS_OFFER_INVALID")
  | .driverNotFound => (400, "ORDERS_DRIVER_NOT_FOUND")
  | .alreadyDeclined _ => (409, "ORDERS_ALREADY_DECLINED")
  | .notOfferable => (409, "ORDERS_NOT_OFFERABLE")
  | .offerGone => (409, "ORDERS_OFFER_GONE")
  -- The proof of a delivery.
  | .proofRequired => (400, "DELIVERY_PROOF_REQUIRED")
  | .noCodeIssued => (409, "DELIVERY_CODE_NO_CODE_ISSUED")
  | .tooManyAttempts => (409, "DELIVERY_CODE_TOO_MANY_ATTEMPTS")
  | .noCodeGiven => (409, "DELIVERY_CODE_NO_CODE_GIVEN")
  | .wrongCode _ => (400, "DELIVERY_CODE_WRONG_CODE")
  | .notArrived status =>
    (409, if isTerminal status then "ORDERS_STATUS_TERMINAL" else "ORDERS_DELIVERY_NOT_ARRIVED")
  -- Booking and placing.
  | .weight => (400, "ORDERS_INVALID_WEIGHT")
  | .coordinates => (400, "ORDERS_INVALID_DELIVERY_COORDINATES")
  | .pricing _ => (400, "PRICING_INVALID_INPUT")
  | .paymentCommitted _ => (409, "ORDERS_PLACE_PAYMENT_COMMITTED")
  -- Runs.
  | .tripNoOrders => (400, "TRIP_NO_ORDERS")
  | .tripOrderIds => (400, "TRIP_BAD_ORDER_IDS")
  | .tripDriverNotFound _ => (404, "TRIP_DRIVER_NOT_FOUND")
  | .tripDriverSuspended _ => (409, "TRIP_DRIVER_SUSPENDED")
  | .tripDriverNoVehicle _ => (409, "TRIP_DRIVER_NO_VEHICLE")
  | .tripDriverUnverified _ => (409, "TRIP_DRIVER_UNVERIFIED")
  | .tripOrderNotFound => (404, "TRIP_ORDER_NOT_FOUND")
  | .tripNotPlannable .. => (409, "TRIP_ORDER_NOT_PLANNABLE")
  | .tripAlreadyPlanned _ => (409, "TRIP_ORDER_ALREADY_PLANNED")
  | .tripStatus => (400, "TRIP_INVALID_STATUS")
  | .tripNotFound => (404, "TRIP_NOT_FOUND")
  | .tripCompleted => (409, "TRIP_ALREADY_COMPLETED")
  | .tripDriverBusy => (409, "TRIP_DRIVER_BUSY")
  | .tripNothingToOptimise => (409, "TRIP_NOTHING_TO_OPTIMISE")
  | .tripNoSequence => (400, "TRIP_NO_SEQUENCE")
  | .tripSequenceMismatch => (400, "TRIP_SEQUENCE_MISMATCH")
  -- The stops of a run.
  | .stopStatus => (400, "STOP_INVALID_STATUS")
  | .stopReason => (400, "STOP_REASON_REQUIRED")
  | .stopNotFound => (404, "STOP_NOT_FOUND")
  | .stopForbidden => (403, "STOP_FORBIDDEN")
  | .stopClosed => (409, "STOP_ALREADY_CLOSED")
  -- What the database refuses has no code of its own.
  | .database => (500, "")

/-- `authMiddleware` with a list of roles. -/
def allow (roles : List Role) (requester : Requester) : Except Failure Unit :=
  require (roles.contains requester.role) .forbidden

/-- A request is let through when its sender has one of the roles. -/
@[simp] theorem allow_ok {roles : List Role} {requester : Requester} {passed : Unit} :
    allow roles requester = .ok passed ↔ roles.contains requester.role = true := by
  -- A guard is passed when its condition holds.
  unfold allow
  exact require_ok

/-- The roles of the dispatch desk. -/
def dispatchRoles : List Role := [.admin, .dispatcher]

namespace Board

variable (board : Board)

/-- `SELECT … FROM users WHERE username = … AND role = 'driver'`. -/
def registeredDriver (name : String) : Option User :=
  (board.users.find? name).filter fun user => user.role = .driver

/-- The vehicles a driver holds. -/
def vehiclesOf (driverId : Nat) : List FleetVehicle :=
  board.vehicles.rows.filter fun vehicle => vehicle.currentDriverId = some driverId

/-- The vehicle a driver's cargo goes on: of several, the one with the highest id. -/
def vehicleOf (driverId : Nat) : Option FleetVehicle :=
  ((board.vehiclesOf driverId).insertionSort fun one other => other.id ≤ one.id).head?

/-- A document counts while it is approved and has not expired. -/
def counts {Holder : Type} (document : Document Holder) : Bool :=
  document.status = .approved && document.expiresAt.all fun expiry => board.now < expiry

end Board

/-- `DRIVER_DOCUMENT_TYPES`. -/
def driverDocumentTypes : List DocumentType := [.nationalId, .driversLicense]

/-- `VEHICLE_DOCUMENT_TYPES`. -/
def vehicleDocumentTypes : List DocumentType :=
  [.vehicleRegistration, .insuranceCertificate, .roadworthinessCertificate]

/-- A vehicle in service, with this driver at its wheel. -/
def FleetVehicle.servesAs (vehicle : FleetVehicle) (driver : User) : Bool :=
  vehicle.currentDriverId = some driver.id && vehicle.status = "ACTIVE"

/-- `isDriverVerified`: the driver's papers, and those of the vehicles in service they hold. -/
def isDriverVerified (board : Board) (name : String) : Bool :=
  let driverOk := board.driverDocuments.countP fun document =>
    document.holder = name && driverDocumentTypes.contains document.documentType &&
      board.counts document
  let vehicleOk := board.vehicleDocuments.countP fun document =>
    vehicleDocumentTypes.contains document.documentType && board.counts document &&
      (board.vehicles.find? document.holder).any fun vehicle =>
        (board.users.find? name).any vehicle.servesAs
  -- The counts have to be met exactly.
  driverOk = driverDocumentTypes.length && vehicleOk = vehicleDocumentTypes.length

/-- The board's orders, as the payment services see them. -/
def Board.store (board : Board) : Payment.Store :=
  { orders := board.orders.rows.map DispatchOrder.toOrder }

/-- `cashHoldFor`: the refusal a driver gets who holds too much of the platform's cash. -/
def cashHoldFor (cfg : DispatchConfig) (board : Board) (name : String) : Option Failure :=
  let owed := Payment.cashOwedBy cfg.services board.store name
  if owed.total ≤ cfg.maxDriverCashOwed then none
  else some (.cashOwing name owed.total owed.currency cfg.maxDriverCashOwed)

/-- The order has been pinned to the map at both ends. -/
def DispatchOrder.isPlaced (order : DispatchOrder) : Bool :=
  order.pickup.isSome && order.delivery.isSome

/-- `unplacedAmong`. -/
def unplacedAmong (orders : List DispatchOrder) : List Nat :=
  (orders.filter fun order => !order.isPlaced).map fun order => order.id

/-- An order on board a vehicle, or promised to it: anything not yet delivered or cancelled. -/
def DispatchOrder.isOpen (order : DispatchOrder) : Bool := !isTerminal order.status

/-- The weight of some orders together. -/
def totalWeight (orders : List DispatchOrder) : ℚ≥0 := (orders.map DispatchOrder.weightKg).sum

/-- What a vehicle already carries, one order left out of the sum where the query leaves one out. -/
def Board.currentLoad (board : Board) (vehicleId : Nat) (except : Option Nat) : ℚ≥0 :=
  totalWeight <| board.orders.rows.filter fun order =>
    order.vehicleId = some vehicleId && order.isOpen && except ≠ some order.id

/-- The capacity check, made only where the vehicle has a recorded limit. -/
def checkCapacity (vehicle : FleetVehicle) (current new : ℚ≥0) : Except Failure Unit :=
  match vehicle.maxWeightKg with
  | none => .ok ()
  | some limit => require ((current + new : ℚ) ≤ limit) (.capacityExceeded (current + new) limit current)

/-- The capacity check passes when the load stays within whatever limit is recorded. -/
@[simp] theorem checkCapacity_ok {vehicle : FleetVehicle} {current new : ℚ≥0} {passed : Unit} :
    checkCapacity vehicle current new = .ok passed ↔
      ∀ limit, vehicle.maxWeightKg = some limit → (current + new : ℚ) ≤ limit := by
  -- No limit on record lets any load pass.
  unfold checkCapacity
  cases vehicle.maxWeightKg <;> simp

/-- `driverAssignmentProblem`: what a run asks of its driver, when it has one. -/
def driverAssignmentProblem (board : Board) (driver : Option String) : Option Failure :=
  match Payment.present driver with
  -- A run without a driver is planned all the same.
  | none => none
  | some name =>
    match board.registeredDriver name with
    | none => some (.tripDriverNotFound name)
    | some user =>
      if user.status = .suspended then some (.tripDriverSuspended name)
      else if (board.vehiclesOf user.id).isEmpty then some (.tripDriverNoVehicle name)
      else if !isDriverVerified board name then some (.tripDriverUnverified name)
      else none

/-- A vehicle that a driver's cargo goes on is one the driver holds. -/
theorem Board.mem_of_vehicleOf {board : Board} {driverId : Nat} {vehicle : FleetVehicle}
    (found : board.vehicleOf driverId = some vehicle) : vehicle ∈ board.vehiclesOf driverId := by
  -- Sorting moves the vehicles about, and adds none.
  unfold vehicleOf at found
  exact (List.mem_insertionSort _).mp (List.mem_of_mem_head? found)

/-- A driver who holds some vehicle has one the cargo goes on. -/
theorem Board.vehicleOf_isSome {board : Board} {driverId : Nat} :
    (board.vehicleOf driverId).isSome ↔ board.vehiclesOf driverId ≠ [] := by
  -- A sorted list is as long as the list it was sorted from.
  unfold vehicleOf
  rw [List.isSome_head?, ne_eq, ← List.length_eq_zero_iff, List.length_insertionSort,
    List.length_eq_zero_iff]

end Freight.Dispatch
