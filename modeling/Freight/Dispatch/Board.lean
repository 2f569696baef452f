import Mathlib.Algebra.Order.Ring.Rat
import Mathlib.Data.NNRat.Defs
import Freight.Library.Table
import Freight.Payment.Debts

/-! The rows dispatch reads and writes: orders, runs and their stops, drivers and vehicles. -/

namespace Freight.Dispatch

/-- `users.role`. -/
inductive Role where
  | admin
  | dispatcher
  | driver
  deriving DecidableEq

/-- `users.status`. -/
inductive UserStatus where
  | pending
  | approved
  | rejected
  | suspended
  deriving DecidableEq

/-- Who sends a request: `req.user`. -/
structure Requester where
  username : String
  role : Role
  deriving DecidableEq

/-- A row of `users`. -/
structure User where
  id : Nat
  username : String
  role : Role
  status : UserStatus := .approved
  deriving DecidableEq

/-- A row of `fleet_vehicles`. A vehicle without a recorded limit has none. -/
structure FleetVehicle where
  id : Nat
  currentDriverId : Option Nat := none
  status : String := "ACTIVE"
  maxWeightKg : Option ℚ := none
  deriving DecidableEq

/-- `document_type`. -/
inductive DocumentType where
  | nationalId
  | driversLicense
  | vehicleRegistration
  | insuranceCertificate
  | roadworthinessCertificate
  | operatorLicence
  deriving DecidableEq

/-- The status of a document. -/
inductive DocumentStatus where
  | pending
  | approved
  | rejected
  deriving DecidableEq

/-- A row of `driver_documents`, or of `vehicle_documents`: the holder tells which. -/
structure Document (Holder : Type) where
  holder : Holder
  documentType : DocumentType
  status : DocumentStatus := .pending
  /-- No date recorded counts as not expired. -/
  expiresAt : Option Nat := none
  deriving DecidableEq

/-- A place on the map. -/
structure Point where
  lat : ℚ
  lng : ℚ
  deriving DecidableEq

/-- A row of `orders`, with the columns dispatch works on besides the money. -/
structure DispatchOrder extends Order where
  /-- Validated positive, and stored to two decimals. -/
  weightKg : ℚ≥0 := 0
  vehicleId : Option Nat := none
  offerExpiresAt : Option Nat := none
  /-- `pickup_lat` and `pickup_lng`. -/
  pickup : Option Point := none
  /-- `delivery_lat` and `delivery_lng`. -/
  delivery : Option Point := none
  recipientPhone : Option String := none
  deliveryCodeHash : Option String := none
  deliveryCodeAttempts : Nat := 0

/-- `trips.status`. -/
inductive TripStatus where
  | planned
  | active
  | completed
  | cancelled
  deriving DecidableEq

/-- A row of `trips`: one driver's run. -/
structure Trip where
  id : Nat
  driverUsername : Option String
  vehicleId : Option Nat := none
  status : TripStatus := .planned
  deriving DecidableEq

/-- `trip_stops.kind`. -/
inductive StopKind where
  | pickup
  | drop
  deriving DecidableEq

/-- `trip_stops.status`. -/
inductive StopStatus where
  | pending
  | arrived
  | done
  | failed
  | skipped
  deriving DecidableEq

/-- A row of `trip_stops`. -/
structure TripStop where
  id : Nat
  tripId : Nat
  orderId : Nat
  kind : StopKind
  /-- Where the stop comes on its run, counted from one. -/
  sequence : Nat
  place : Option Point := none
  status : StopStatus := .pending
  failureReason : Option String := none
  deriving DecidableEq

/-- A row of `order_status_logs`. -/
structure StatusLog where
  orderId : Nat
  previousStatus : OrderStatus
  newStatus : OrderStatus
  changedBy : String
  changedAt : Nat
  deriving DecidableEq

/-- `delivery_confirmations.proof_method`. -/
inductive ProofMethod where
  | photo
  | code
  | photoAndCode
  deriving DecidableEq

/-- A row of `delivery_confirmations`. -/
structure DeliveryConfirmation where
  orderId : Nat
  driverName : String
  /-- `photo_url`: the storage key of the photo. -/
  photoKey : Option String
  notes : Option String
  proofMethod : ProofMethod
  deriving DecidableEq

/-- A row of `order_offer_declines`. -/
structure OfferDecline where
  orderId : Nat
  driverUsername : String
  reason : Option String
  deriving DecidableEq

/-- Everything dispatch reads and writes. -/
structure Board where
  orders : Table DispatchOrder fun order => order.id
  trips : Table Trip fun trip => trip.id := .empty
  stops : Table TripStop fun stop => stop.id := .empty
  users : Table User fun user => user.username := .empty
  vehicles : Table FleetVehicle fun vehicle => vehicle.id := .empty
  driverDocuments : List (Document String) := []
  vehicleDocuments : List (Document Nat) := []
  logs : List StatusLog := []
  confirmations : List DeliveryConfirmation := []
  declines : List OfferDecline := []
  now : Nat := 0

namespace Board

variable (board : Board)

/-- The order an id names. -/
def order (id : Nat) : Option DispatchOrder := board.orders.find? id

/-- The status of the order an id names. -/
def statusOf (id : Nat) : Option OrderStatus := (board.order id).map fun order => order.status

/-- The run an id names. -/
def trip (id : Nat) : Option Trip := board.trips.find? id

/-- The stop an id names. -/
def stop (id : Nat) : Option TripStop := board.stops.find? id

/-- A change to one order. -/
def changeOrder (id : Nat) (change : DispatchOrder → DispatchOrder)
    (keeps : ∀ order, (change order).id = order.id) : Board :=
  { board with orders := board.orders.update id change keeps }

/-- A change to one order is seen under its own id only. -/
theorem order_changeOrder (target : Nat) (change : DispatchOrder → DispatchOrder)
    (keeps : ∀ order, (change order).id = order.id) (id : Nat) :
    (board.changeOrder target change keeps).order id =
      if id = target then (board.order id).map change else board.order id :=
  -- The table is asked for the row under the id.
  board.orders.find?_update target change keeps id

/-- An entry in the history of an order. -/
def logged (orderId : Nat) (previous new : OrderStatus) (changedBy : String) : Board :=
  { board with logs := board.logs ++ [
      { orderId := orderId, previousStatus := previous, newStatus := new, changedBy := changedBy
        changedAt := board.now }] }

end Board

/-- What the dispatch code takes from its environment, and the outside code it relies on. -/
structure DispatchConfig where
  /-- The settings it shares with the payment services. -/
  services : Config
  /-- The language's own `toLowerCase`. -/
  lower : String → String
  /-- `hashCode`: the SHA-256 of a delivery code. -/
  hashCode : String → String
  /-- The rows of `pricing_rates`. -/
  rateOf : Nat → Option Rate
  /-- `ST_DistanceSphere`, in kilometres. -/
  kmApart : Point → Point → ℚ
  /-- `MAX_DRIVER_CASH_OWED`. -/
  maxDriverCashOwed : ℚ
  /-- `haversineMetres` between two places. -/
  haversineMetres : Point → Point → ℚ
  /-- The place in a driver's row of `driver_locations`, where it is not older than ten minutes. -/
  lastSeen : Nat → String → Option Point

/-- Degrees of latitude and longitude apart, the larger of the two, in kilometres. -/
def degreesApart (one other : Point) : ℚ :=
  111 * max |one.lat - other.lat| |one.lng - other.lng|

/-- The deployment in Kigali, with its settings at their defaults and no rate cards. -/
def DispatchConfig.kigali : DispatchConfig where
  services := .kigali
  lower := fun name => String.ofList (name.toList.map Char.toLower)
  hashCode := fun code => "sha256:" ++ code
  rateOf := fun _ => none
  kmApart := degreesApart
  maxDriverCashOwed := 50000
  haversineMetres := fun one other => 1000 * degreesApart one other
  lastSeen := fun _ _ => none

/-- The longest text `failure_reason` is given. -/
def maxReasonLength : Nat := 500

/-- The furthest a load may be collected from a drop and still fill the run home. -/
def backfillRadiusKm : ℚ := 15

/-- Wrong guesses a delivery code survives. -/
def deliveryCodeMaxAttempts : Nat := 5

end Freight.Dispatch
