import Freight.Dispatch.System

/-! The dispatcher's live board: what is emitted over the socket, and what the board makes of it. -/

namespace Freight.Dispatch

/-- An order as a row of the live board. -/
structure ListedOrder where
  id : Nat
  status : OrderStatus
  /-- `assigned_to`, which most of the rows come without. -/
  assignedTo : Option String := none
  deriving DecidableEq

/-- What an UPDATE or an INSERT hands back of an order: its id and its status. -/
def DispatchOrder.returned (order : DispatchOrder) : ListedOrder where
  id := order.id
  status := order.status

/-- What the in-flight feed hands back of it. -/
def DispatchOrder.inFlight (order : DispatchOrder) : ListedOrder where
  id := order.id
  status := order.status
  assignedTo := order.assignedTo

/-- What dispatch is sent about orders and runs. -/
inductive SocketEvent where
  | orderCreated (order : ListedOrder)
  | orderDispatched (driverName : String) (assignedManifest : List ListedOrder)
  | orderReassigned (orderId : Nat) (driverName : String)
  | orderUnassigned (orderId : Nat)
  | orderStatusUpdated (orderId : Nat) (status : OrderStatus)
  | orderOffered (order : ListedOrder)
  | orderOfferDeclined (orderId : Nat) (driverName : String)
  | tripUpdated (tripId : Nat)
  deriving DecidableEq

/-- What is sent for a request: nothing where it is refused. -/
def announced (result : Except Failure Board) (events : Board → List SocketEvent) : List SocketEvent :=
  match result with
  | .ok written => events written
  | .error _ => []

/-- The rows of some orders as they have been written. -/
def Board.returned (board : Board) (ids : List Nat) : List ListedOrder :=
  (board.orders.rows.filter fun order => ids.contains order.id).map DispatchOrder.returned

/-- What an order is said to have become. -/
def Board.statusUpdated (board : Board) (id : Nat) : List SocketEvent :=
  (board.order id).toList.map fun order => .orderStatusUpdated order.id order.status

/-- What the update of a stop says about its order: the status it is given, if it did not have it. -/
def Board.stopUpdated (board : Board) (stop : TripStop) (status : Option StopStatus) :
    List SocketEvent :=
  if status = some .done then
    (board.order stop.orderId).toList.flatMap fun order =>
      if order.status = stopCompletionOrderStatus stop.kind then []
      else [.orderStatusUpdated stop.orderId (stopCompletionOrderStatus stop.kind)]
  else []

/-- What each endpoint sends to dispatch, in its order. -/
def emitted (cfg : DispatchConfig) (board : Board) : DispatchEvent → List SocketEvent
  | .createOrder requester request =>
    announced (createOrder board requester request) fun written =>
      (written.returned [board.orders.nextSerial]).map .orderCreated
  | .assignOrderBundle requester orderIds driverName =>
    announced (assignOrderBundle cfg board requester orderIds driverName) fun written =>
      [.orderDispatched driverName (written.returned orderIds)]
  | .reassignOrder requester id driverName =>
    announced (reassignOrder cfg board requester id driverName) fun written =>
      let nextDriver := String.ofList (trim (driverName.getD "").toList)
      if nextDriver = "" then .orderUnassigned id :: (written.returned [id]).map .orderCreated
      else [.orderReassigned id nextDriver]
  | .updateOrderStatus requester id status code _ =>
    announced (updateOrderStatus cfg board requester id status code) fun written =>
      written.statusUpdated id
  | .confirmDelivery requester id proof =>
    announced (confirmDelivery cfg board requester id proof) fun written => written.statusUpdated id
  | .offerOrders requester orderIds driverName expiresInMinutes =>
    announced (offerOrders board requester orderIds driverName expiresInMinutes) fun written =>
      (written.returned orderIds).map .orderOffered
  | .acceptOffer requester id =>
    announced (acceptOffer board requester id) fun _ => [.orderStatusUpdated id .assigned]
  | .declineOffer requester id reason =>
    announced (declineOffer board requester id reason) fun _ =>
      [.orderOfferDeclined id requester.username]
  | .createTrip requester orderIds driverUsername vehicleId =>
    announced (createTrip cfg board requester orderIds driverUsername vehicleId) fun _ =>
      [.tripUpdated board.trips.nextSerial]
  | .updateTrip requester tripId driverUsername vehicleId status =>
    announced (updateTrip board requester tripId driverUsername vehicleId status) fun _ =>
      [.tripUpdated tripId]
  | .updateStop requester stopId status reason =>
    announced (updateStop cfg board requester stopId status reason) fun _ =>
      (board.stop stopId).toList.flatMap fun stop =>
        board.stopUpdated stop status ++ [.tripUpdated stop.tripId]
  -- A customer's booking, a placement, the sweep of the offers and the payments send nothing here.
  | _ => []

/-- The two feeds as the dispatcher's board holds them. -/
structure LiveBoard where
  activeOrders : List ListedOrder
  inFlightOrders : List ListedOrder
  deriving DecidableEq

/-- Both feeds as they are fetched. -/
def LiveBoard.fetched (board : Board) : LiveBoard where
  activeOrders := (board.orders.rows.filter fun order => order.status = .pending).map
    DispatchOrder.returned
  inFlightOrders := (board.orders.rows.filter fun order => order.status = .assigned).map
    DispatchOrder.inFlight

/-- `attachSocketListeners`: what the board makes of an event. -/
def LiveBoard.hear (live : LiveBoard) : SocketEvent → LiveBoard
  | .orderCreated order => { live with activeOrders := order :: live.activeOrders }
  | .orderDispatched driverName assignedManifest =>
    let dispatchedIds := assignedManifest.map ListedOrder.id
    { activeOrders := live.activeOrders.filter fun order => !dispatchedIds.contains order.id
      inFlightOrders := (assignedManifest.map fun order => { order with assignedTo := some driverName })
        ++ live.inFlightOrders }
  | .orderReassigned orderId driverName =>
    { live with
      inFlightOrders := live.inFlightOrders.map fun order =>
        if order.id = orderId then { order with assignedTo := some driverName } else order }
  | .orderUnassigned orderId =>
    { live with inFlightOrders := live.inFlightOrders.filter fun order => order.id ≠ orderId }
  | .orderStatusUpdated orderId status =>
    -- Only a status away from ASSIGNED takes a row out, and only out of what is in flight.
    if status ≠ .assigned then
      { live with inFlightOrders := live.inFlightOrders.filter fun order => order.id ≠ orderId }
    else live
  -- Nobody listens to these three.
  | .orderOffered _ | .orderOfferDeclined _ _ | .tripUpdated _ => live

/-- The server's tables, and a dispatcher watching them. -/
structure Watched where
  board : Board
  live : LiveBoard

/-- A dispatcher who has just fetched both feeds. -/
def Watched.fetched (board : Board) : Watched where
  board := board
  live := .fetched board

/-- One event on the server, and everything sent for it heard once and in order. -/
def Watched.step (cfg : DispatchConfig) (watched : Watched) (event : DispatchEvent) : Watched where
  board := Dispatch.step cfg watched.board event
  live := (emitted cfg watched.board event).foldl LiveBoard.hear watched.live

/-- The live board shows what there is. -/
structure Watched.Mirrors (watched : Watched) : Prop where
  /-- One row for each order that is PENDING, and none for any other. -/
  active : ∀ id, (watched.live.activeOrders.filter fun row => row.id = id).length =
    if watched.board.statusOf id = some .pending then 1 else 0
  /-- One row, with the current driver, for each order that is ASSIGNED, and none for any other. -/
  inFlight : ∀ id, ((watched.live.inFlightOrders.filter fun row => row.id = id).map
      ListedOrder.assignedTo) =
    ((watched.board.order id).toList.filter fun order => order.status = .assigned).map
      fun order => order.assignedTo
  /-- No order is in both. -/
  apart : ∀ waiting ∈ watched.live.activeOrders, ∀ going ∈ watched.live.inFlightOrders,
    waiting.id ≠ going.id

end Freight.Dispatch
