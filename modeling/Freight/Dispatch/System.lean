import Freight.Dispatch.Trips
import Freight.Library.Run

/-! Every way an order is written to, one committed transaction after another. -/

namespace Freight.Dispatch

/-- What can happen to the board. -/
inductive DispatchEvent where
  | createOrder (requester : Requester) (request : NewOrder)
  | publicCreateOrder (request : NewBooking)
  | placeOneOrder (requester : Requester) (id : Nat) (pickup delivery : Point)
      (pricing : Except PricingError Quote)
  | assignOrderBundle (requester : Requester) (orderIds : List Nat) (driverName : String)
  | reassignOrder (requester : Requester) (id : Nat) (driverName : Option String)
  /-- With the code that would be issued, and what becomes of a transaction left open. -/
  | updateOrderStatus (requester : Requester) (id : Nat) (status : Option OrderStatus) (code : String)
      (committedLater : Bool)
  | confirmDelivery (requester : Requester) (id : Nat) (proof : DeliveryProof)
  | offerOrders (requester : Requester) (orderIds : List Nat) (driverName : String)
      (expiresInMinutes : Option ℚ)
  | acceptOffer (requester : Requester) (id : Nat)
  | declineOffer (requester : Requester) (id : Nat) (reason : Option String)
  | expireJobOffers
  | createTrip (requester : Requester) (orderIds : List Nat) (driverUsername : Option String)
      (vehicleId : Option Nat)
  | updateTrip (requester : Requester) (tripId : Nat) (driverUsername : Option (Option String))
      (vehicleId : Option Nat) (status : Option TripStatus)
  | updateStop (requester : Requester) (stopId : Nat) (status : Option StopStatus)
      (failureReason : Option String)
  /-- An incident is stored beside the order it names, and the order is left alone. -/
  | reportIncident (driver : String) (orderId : Option Nat)
  /-- The payment services write their own columns. -/
  | payment (id : Nat) (status : PaymentStatus) (method : Option PaymentMethod)
      (collectedAt settledAt : Option Nat)
  /-- Accounts, vehicles and papers change, and time passes. -/
  | elsewhere (users : Table User fun user => user.username)
      (vehicles : Table FleetVehicle fun vehicle => vehicle.id)
      (driverDocuments : List (Document String)) (vehicleDocuments : List (Document Nat))
      (elapsed : Nat)

/-- What a transaction leaves: its own writes, or nothing of them when it was refused. -/
def committed (board : Board) : Except Failure Board → Board
  | .ok written => written
  | .error _ => board

/-- One event of the board's life. -/
def step (cfg : DispatchConfig) (board : Board) : DispatchEvent → Board
  | .createOrder requester request => committed board (createOrder board requester request)
  | .publicCreateOrder request => committed board (publicCreateOrder board request)
  | .placeOneOrder requester id pickup delivery pricing =>
    committed board (placeOneOrder board requester id pickup delivery pricing)
  | .assignOrderBundle requester orderIds driverName =>
    committed board (assignOrderBundle cfg board requester orderIds driverName)
  | .reassignOrder requester id driverName =>
    committed board (reassignOrder cfg board requester id driverName)
  -- A refused update may leave its transaction open on the connection, to be committed later.
  | .updateOrderStatus requester id status code committedLater =>
    match updateOrderStatus cfg board requester id status code with
    | .ok written => written
    | .error _ => afterRefusedStatus cfg board requester id status committedLater
  -- A refused confirmation may have counted a wrong code.
  | .confirmDelivery requester id proof =>
    match confirmDelivery cfg board requester id proof with
    | .ok written => written
    | .error failure => afterRefusedProof board id failure
  | .offerOrders requester orderIds driverName expiresInMinutes =>
    committed board (offerOrders board requester orderIds driverName expiresInMinutes)
  | .acceptOffer requester id => committed board (acceptOffer board requester id)
  | .declineOffer requester id reason => committed board (declineOffer board requester id reason)
  | .expireJobOffers => expireJobOffers board
  | .createTrip requester orderIds driverUsername vehicleId =>
    committed board (createTrip cfg board requester orderIds driverUsername vehicleId)
  | .updateTrip requester tripId driverUsername vehicleId status =>
    committed board (updateTrip board requester tripId driverUsername vehicleId status)
  | .updateStop requester stopId status failureReason =>
    committed board (updateStop cfg board requester stopId status failureReason)
  -- A report writes an incident, and no order.
  | .reportIncident _ _ => board
  | .payment id status method collectedAt settledAt =>
    board.changeOrder id (fun order => { order with
      paymentStatus := status, paymentMethod := method
      cashCollectedAt := collectedAt, cashSettledAt := settledAt }) fun _ => rfl
  | .elsewhere users vehicles driverDocuments vehicleDocuments elapsed =>
    { board with
      users := users, vehicles := vehicles, driverDocuments := driverDocuments
      vehicleDocuments := vehicleDocuments, now := board.now + elapsed }

/-- Where an order stands: its status, and whose it is. -/
structure Standing where
  status : OrderStatus
  assignedTo : Option String
  vehicleId : Option Nat
  offerExpiresAt : Option Nat
  deriving DecidableEq

/-- Where an order stands. -/
def DispatchOrder.standing (order : DispatchOrder) : Standing where
  status := order.status
  assignedTo := order.assignedTo
  vehicleId := order.vehicleId
  offerExpiresAt := order.offerExpiresAt

/-- Where a new order stands: it waits, and nobody has it. -/
def Standing.waiting : Standing where
  status := .pending
  assignedTo := none
  vehicleId := none
  offerExpiresAt := none

/-- Everything an event can do to where an order stands. -/
inductive Change (cfg : DispatchConfig) (board : Board) (id : Nat) (event : DispatchEvent) :
    Standing → Standing → Prop where
  /-- The event leaves the order where it stands. -/
  | kept (old : Standing) : Change cfg board id event old old
  /-- A bundle it is in is assigned. -/
  | assigned (old : Standing) (driver : String) (vehicle : Nat) (was : old.status = .pending) :
      Change cfg board id event old
        { old with status := .assigned, assignedTo := some driver, vehicleId := some vehicle }
  /-- It is given to another driver. -/
  | reassigned (old : Standing) (driver : String) (vehicle : Nat) (was : old.status = .assigned) :
      Change cfg board id event old
        { old with assignedTo := some driver, vehicleId := some vehicle }
  /-- It goes back to the queue. -/
  | unassigned (old : Standing) (was : old.status = .assigned) :
      Change cfg board id event old
        { old with status := .pending, assignedTo := none, vehicleId := none }
  /-- Its status is updated, in a transaction that is committed or in one that was left open. -/
  | updated (old : Standing) (requester : Requester) (order : DispatchOrder) (status : OrderStatus)
      (code : String) (committedLater : Bool) (allowed : canTransition old.status status = true)
      (passes : statusChange cfg board requester id (some status) = .ok (order, status))
      (by_ : event = .updateOrderStatus requester id (some status) code committedLater) :
      Change cfg board id event old { old with status := status }
  /-- It is offered. -/
  | offered (old : Standing) (driver : String) (expiry : Nat) (was : old.status = .pending) :
      Change cfg board id event old
        { old with status := .offered, assignedTo := some driver, offerExpiresAt := some expiry }
  /-- The driver it is offered to accepts. -/
  | accepted (old : Standing) (requester : Requester) (was : old.status = .offered)
      (theirs : old.assignedTo = some requester.username)
      (by_ : event = .acceptOffer requester id) :
      Change cfg board id event old { old with status := .assigned, offerExpiresAt := none }
  /-- The offer is declined, or lapses. -/
  | released (old : Standing) (was : old.status = .offered) :
      Change cfg board id event old
        { old with status := .pending, assignedTo := none, offerExpiresAt := none }
  /-- A run it is on gets a driver. -/
  | taken (old : Standing) (driver : String) :
      Change cfg board id event old
        { old with
          status := if old.status = .pending then .assigned else old.status
          assignedTo := some driver }
  /-- A stop of it is done. -/
  | stopDone (old : Standing) (requester : Requester) (stopId : Nat) (status : Option StopStatus)
      (reason : Option String) (stop : TripStop) (trip : Trip)
      (passes : stopChange cfg board requester stopId status reason = .ok (stop, trip, .done))
      (own : stop.orderId = id) (by_ : event = .updateStop requester stopId status reason) :
      Change cfg board id event old { old with status := stopCompletionOrderStatus stop.kind }
  /-- It is delivered on its proof. -/
  | delivered (old : Standing) (requester : Requester) (proof : DeliveryProof)
      (was : old.status ∈ deliverableFrom) (by_ : event = .confirmDelivery requester id proof) :
      Change cfg board id event old { old with status := .delivered }

/-- A dispatcher in Kigali. -/
def aDispatcher : Requester := { username := "dispatch", role := .dispatcher }

/-- The price of a light load with no distance yet. -/
def anEstimate : Quote where
  currency := ['R', 'W', 'F']
  vehicleClass := "Light Van"
  pricingRateId := 1
  isEstimate := true
  distanceKm := none
  weightKg := 300
  fuelAmount := 0
  returnLegAmount := 0
  returnsEmpty := false
  openRoadKm := 0
  terrainFactor := 1
  serviceAmount := 5000
  totalAmount := 5000
  platformFee := 750
  driverNet := 4250
  minimumFareApplied := true
  minimumFeeApplied := false
  freeWaitingMinutes := 60
  detentionPerHour := 0

/-- A board with one order waiting, pinned to the map. -/
def oneWaiting : Board where
  orders := ⟨[{ id := 1, pickup := some ⟨-2, 30⟩, delivery := some ⟨-1, 30⟩ }], by decide⟩

end Freight.Dispatch
