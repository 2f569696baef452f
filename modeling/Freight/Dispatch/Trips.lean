import Freight.Dispatch.Orders
import Freight.Dispatch.Sequencing

/-! The trip controller: planning a run, putting its stops in order, and working through them. -/

namespace Freight.Dispatch

/-- `PLANNABLE_ORDER_STATUSES`. -/
def plannableOrderStatuses : List OrderStatus := [.pending, .assigned, .pickedUp, .inTransit, .arrived]

/-- The statuses of an order whose cargo is aboard already. -/
def collectedStatuses : List OrderStatus := [.pickedUp, .inTransit, .arrived]

/-- `OPEN_STOP_STATUSES`. -/
def openStopStatuses : List StopStatus := [.pending, .arrived]

/-- `DRIVER_STOP_TRANSITIONS`. -/
def driverStopTransitions : List StopStatus := [.arrived, .done, .failed, .skipped]

/-- `STOP_COMPLETION_ORDER_STATUS`: which order status a completed stop implies. -/
def stopCompletionOrderStatus : StopKind → OrderStatus
  | .pickup => .pickedUp
  | .drop => .delivered

/-- A stop to be planned: its order, its kind and its place. -/
structure StopDraft where
  orderId : Nat
  kind : StopKind
  place : Option Point
  deriving DecidableEq

/-- The stops an order needs: a pickup unless its cargo is aboard already, and a drop. -/
def DispatchOrder.draft (order : DispatchOrder) : List StopDraft :=
  let drop : StopDraft := { orderId := order.id, kind := .drop, place := order.delivery }
  if collectedStatuses.contains order.status then [drop]
  else [{ orderId := order.id, kind := .pickup, place := order.pickup }, drop]

/-- The index that keeps an order off two live runs: one open stop for each order and kind. -/
def Board.alreadyPlanned (board : Board) (draft : StopDraft) : Bool :=
  board.stops.rows.any fun stop =>
    stop.orderId = draft.orderId && stop.kind = draft.kind && openStopStatuses.contains stop.status

/-- A stop to be planned, as it is put in order. -/
def StopDraft.leg (draft : StopDraft) : Leg where
  orderId := draft.orderId
  kind := draft.kind
  place := draft.place
  status := .pending

/-- A stop of a run, as it is put in order. -/
def TripStop.leg (stop : TripStop) : Leg where
  orderId := stop.orderId
  kind := stop.kind
  place := stop.place
  status := stop.status

/-- `startingPoint`: where the driver has just been seen, or else the fallback. -/
def startingPoint (cfg : DispatchConfig) (board : Board) (driver : Option String)
    (fallback : Option Point) : Option Point :=
  match Payment.present driver with
  | none => fallback
  | some name => (cfg.lastSeen board.now name).or fallback

/-- The stops of a new run, inserted one after another in their order. -/
def plannedStops (tripId : Nat) (stops : Table TripStop fun stop => stop.id) (ordered : List StopDraft) :
    Table TripStop fun stop => stop.id :=
  ordered.zipIdx.foldl (fun stops item => stops.insert (fun id => {
    id := id, tripId := tripId, orderId := item.1.orderId, kind := item.1.kind
    sequence := item.2 + 1, place := item.1.place }) fun _ => rfl) stops

/-- A run's driver becomes its orders' driver, and an order nobody had is assigned by it. -/
def DispatchOrder.takenBy (order : DispatchOrder) (driver : String) : DispatchOrder :=
  { order with
    assignedTo := some driver
    status := if order.status = .pending then .assigned else order.status }

/-- The orders some test chooses go to a run's driver, when it has one. -/
def Board.handedOver (board : Board) (chosen : DispatchOrder → Bool) (driver : Option String) : Board :=
  match Payment.present driver with
  | none => board
  | some name =>
    { board with orders := board.orders.updateWhere chosen (fun order => order.takenBy name) fun _ => rfl }

/-- The foreign keys of a run: its driver is a user, and its vehicle a vehicle. -/
def Board.knows (board : Board) (driver : Option String) (vehicleId : Option Nat) : Bool :=
  driver.all (fun name => (board.users.find? name).isSome) &&
    vehicleId.all fun id => (board.vehicles.find? id).isSome

/-- The stops some orders need, in the order a new run makes them. -/
def Board.planned (cfg : DispatchConfig) (board : Board) (driver : Option String)
    (orders : List DispatchOrder) : List StopDraft :=
  let drafts := orders.flatMap DispatchOrder.draft
  sequenceStops cfg StopDraft.leg drafts
    (startingPoint cfg board driver (drafts.head?.bind StopDraft.place))

/-- Putting the stops in order neither loses nor adds one. -/
theorem mem_planned {cfg : DispatchConfig} {board : Board} {driver : Option String}
    {orders : List DispatchOrder} {draft : StopDraft} :
    draft ∈ board.planned cfg driver orders ↔ ∃ order ∈ orders, draft ∈ order.draft := by
  -- The drafts are put in another order, and they are drawn up order by order.
  unfold Board.planned
  rw [(sequenceStops_perm _ _ _ _).mem_iff, List.mem_flatMap]

/-- `createTrip`. -/
def createTrip (cfg : DispatchConfig) (board : Board) (requester : Requester) (orderIds : List Nat)
    (driverUsername : Option String) (vehicleId : Option Nat) : Except Failure Board := do
  allow dispatchRoles requester
  require (!orderIds.isEmpty) .tripNoOrders
  require (orderIds.Nodup) .tripOrderIds
  refuse (driverAssignmentProblem board driverUsername)
  let orders := board.orders.rows.filter fun order => orderIds.contains order.id
  require (orders.length = orderIds.length) .tripOrderNotFound
  refuse <| (orders.find? fun order => !plannableOrderStatuses.contains order.status).map fun order =>
    .tripNotPlannable order.id order.status
  require (board.knows driverUsername vehicleId) .database
  let ordered := board.planned cfg driverUsername orders
  refuse <| (ordered.find? board.alreadyPlanned).map fun draft => .tripAlreadyPlanned draft.orderId
  let planned := { board with
    trips := board.trips.insert (fun id => {
      id := id, driverUsername := driverUsername, vehicleId := vehicleId }) fun _ => rfl
    stops := plannedStops board.trips.nextSerial board.stops ordered }
  -- Assigning the run assigns its orders.
  return planned.handedOver (fun order => orderIds.contains order.id) driverUsername

/-- The stops of a run, in their order. -/
def Board.stopsOf (board : Board) (tripId : Nat) : List TripStop :=
  (board.stops.rows.filter fun stop => stop.tripId = tripId).insertionSort
    fun one other => one.sequence ≤ other.sequence

/-- Some stops numbered from one in the order their ids are listed, one UPDATE after another. -/
def numberedStops (stops : Table TripStop fun stop => stop.id) (ids : List Nat) :
    Table TripStop fun stop => stop.id :=
  stops.updateWhere (fun stop => ids.contains stop.id)
    (fun stop => { stop with sequence := ids.idxOf stop.id + 1 }) fun _ => rfl

/-- `optimiseTrip`. -/
def optimiseTrip (cfg : DispatchConfig) (board : Board) (requester : Requester) (tripId : Nat) :
    Except Failure Board := do
  allow dispatchRoles requester
  let trip ← demand (board.trip tripId) .tripNotFound
  let stops := board.stopsOf tripId
  -- Stops already visited keep their place; what is still ahead of the driver is put in order.
  let settled := stops.filter fun stop => terminalStopStatuses.contains stop.status
  let open_ := stops.filter fun stop => openStopStatuses.contains stop.status
  require (2 ≤ open_.length) .tripNothingToOptimise
  let start := startingPoint cfg board trip.driverUsername
    ((settled.getLast?.or open_.head?).bind TripStop.place)
  let ordered := settled ++ sequenceStops cfg TripStop.leg open_ start
  return { board with stops := numberedStops board.stops (ordered.map fun stop => stop.id) }

/-- `reorderTrip`: every stop of the run, exactly once, in the order it is asked for. -/
def reorderTrip (board : Board) (requester : Requester) (tripId : Nat) (stopIds : List Nat) :
    Except Failure Board := do
  allow dispatchRoles requester
  require (!stopIds.isEmpty) .tripNoSequence
  -- The ids asked for have to be those of the run, each of them once.
  let known := (board.stops.rows.filter fun stop => stop.tripId = tripId).map fun stop => stop.id
  require (stopIds.length = known.length && stopIds.all known.contains && decide stopIds.Nodup)
    .tripSequenceMismatch
  return { board with stops := numberedStops board.stops stopIds }

/-- The index that allows a driver one active run: another run of theirs is active. -/
def Board.driverBusy (board : Board) (tripId : Nat) (driver : Option String) : Bool :=
  driver.isSome && board.trips.rows.any fun trip =>
    trip.id ≠ tripId && trip.status = .active && trip.driverUsername = driver

/-- Some stop of the run is the order's. -/
def Board.onTrip (board : Board) (tripId : Nat) (order : DispatchOrder) : Bool :=
  board.stops.rows.any fun stop => stop.tripId = tripId && stop.orderId = order.id

/-- Cancelling a run skips the stops still open on it. -/
def TripStop.cancelled (stop : TripStop) : TripStop :=
  { stop with
    status := .skipped, failureReason := stop.failureReason.or (some "Run cancelled") }

/-- `updateTrip`. The driver is left as it is, taken off, or named. -/
def updateTrip (board : Board) (requester : Requester) (tripId : Nat)
    (driverUsername : Option (Option String)) (vehicleId : Option Nat) (status : Option TripStatus) :
    Except Failure Board := do
  allow dispatchRoles requester
  require (status ≠ some .completed) .tripStatus
  let current ← demand (board.trip tripId) .tripNotFound
  require (current.status ≠ .completed) .tripCompleted
  let nextDriver := driverUsername.getD current.driverUsername
  -- Asked when a driver is put on the run, and when the run is started.
  refuse <| if driverUsername.isSome || status = some .active
    then driverAssignmentProblem board nextDriver else none
  require (board.knows nextDriver vehicleId) .database
  let nextStatus := status.getD current.status
  require (nextStatus ≠ .active || !board.driverBusy tripId nextDriver) .tripDriverBusy
  let updated := { board with
    trips := board.trips.update tripId (fun trip => { trip with
      driverUsername := nextDriver, vehicleId := vehicleId.or trip.vehicleId, status := nextStatus })
      fun _ => rfl
    stops := if status = some TripStatus.cancelled
      then board.stops.updateWhere
        (fun stop => stop.tripId = tripId && openStopStatuses.contains stop.status)
        TripStop.cancelled fun _ => rfl
      else board.stops }
  return updated.handedOver (board.onTrip tripId) nextDriver

/-- The reason a stop did not happen, trimmed and cut to its longest. -/
def failureReasonOf (given : Option String) : String :=
  String.ofList (takeUnits maxReasonLength (trim (given.getD "").toList))

/-- The checks of `updateStop`: the stop it closes or arrives at, the stop's run, and the new status. -/
def stopChange (cfg : DispatchConfig) (board : Board) (requester : Requester) (stopId : Nat)
    (status : Option StopStatus) (failureReason : Option String) :
    Except Failure (TripStop × Trip × StopStatus) := do
  let status ← demand (status.filter driverStopTransitions.contains) .stopStatus
  -- A stop that did not happen has to say why.
  require (!([.failed, .skipped].contains status && failureReasonOf failureReason = "")) .stopReason
  let stop ← demand (board.stop stopId) .stopNotFound
  let trip ← demand (board.trip stop.tripId) .stopNotFound
  require (requester.role ≠ .driver || sameName cfg trip.driverUsername requester.username)
    .stopForbidden
  require (!terminalStopStatuses.contains stop.status) .stopClosed
  -- Starting work on a run starts the run, and its driver can have only one.
  require (trip.status ≠ .planned || !board.driverBusy trip.id trip.driverUsername) .database
  return (stop, trip, status)

/-- What a completed stop does to its order, whatever the order's status was. -/
def Board.completed (board : Board) (stop : TripStop) (changedBy : String) : Board :=
  match board.order stop.orderId with
  | none => board
  | some order =>
    let status := stopCompletionOrderStatus stop.kind
    -- An order that is not there yet is moved there, whatever the table of transitions says.
    if order.status = status then board
    else (board.changeOrder stop.orderId (.movedTo status) fun _ => rfl).logged
      stop.orderId order.status status changedBy

/-- A stop in its new status, and why it did not happen if it did not. -/
def TripStop.updated (stop : TripStop) (status : StopStatus) (reason : String) : TripStop :=
  { stop with
    status := status
    failureReason := if [.failed, .skipped].contains status then some reason else stop.failureReason }

/-- `updateStop`. -/
def updateStop (cfg : DispatchConfig) (board : Board) (requester : Requester) (stopId : Nat)
    (status : Option StopStatus) (failureReason : Option String) : Except Failure Board := do
  let (stop, trip, status) ← stopChange cfg board requester stopId status failureReason
  let started := { board with
    stops := board.stops.update stopId
      (fun stop => stop.updated status (failureReasonOf failureReason)) fun _ => rfl
    trips := if trip.status = .planned
      then board.trips.update trip.id (fun trip => { trip with status := .active }) fun _ => rfl
      else board.trips }
  let moved := if status = .done then started.completed stop requester.username else started
  -- A run with nothing open left is finished.
  let open_ := moved.stops.rows.any fun stop =>
    stop.tripId = trip.id && openStopStatuses.contains stop.status
  return if open_ then moved
    else { moved with
      trips := moved.trips.update trip.id (fun trip => { trip with status := .completed }) fun _ => rfl }

section
variable {cfg : DispatchConfig} {board later : Board} {requester : Requester} {tripId : Nat}

/-- What an accepted run has passed: its orders are there, plannable and on no other run. -/
theorem createTrip_accepted {orderIds : List Nat} {driver : Option String} {vehicleId : Option Nat} :
    createTrip cfg board requester orderIds driver vehicleId = .ok later ↔
      dispatchRoles.contains requester.role = true ∧ (!orderIds.isEmpty) = true ∧ orderIds.Nodup ∧
        driverAssignmentProblem board driver = none ∧
        (board.orders.rows.filter fun order => orderIds.contains order.id).length = orderIds.length ∧
        ((board.orders.rows.filter fun order => orderIds.contains order.id).find? fun order =>
          !plannableOrderStatuses.contains order.status).map
            (fun order => Failure.tripNotPlannable order.id order.status) = none ∧
        board.knows driver vehicleId = true ∧
        ((board.planned cfg driver (board.orders.rows.filter fun order => orderIds.contains order.id)).find?
          board.alreadyPlanned).map (fun draft => Failure.tripAlreadyPlanned draft.orderId) = none ∧
        Board.handedOver { board with
          trips := board.trips.insert (fun id => {
            id := id, driverUsername := driver, vehicleId := vehicleId }) fun _ => rfl
          stops := plannedStops board.trips.nextSerial board.stops
            (board.planned cfg driver (board.orders.rows.filter fun order => orderIds.contains order.id)) }
          (fun order => orderIds.contains order.id) driver = later := by
  -- The handler is a row of checks; behind the last it inserts the run, its stops, and their driver.
  unfold createTrip
  simp only [bind_ok, allow_ok, require_ok, refuse_ok, pure_ok, exists_const, decide_eq_true_eq]

/-- What an accepted request to put a run in order has passed, and the numbers it writes. -/
theorem optimiseTrip_accepted : optimiseTrip cfg board requester tripId = .ok later ↔
    dispatchRoles.contains requester.role = true ∧ ∃ trip, board.trip tripId = some trip ∧
      2 ≤ ((board.stopsOf tripId).filter fun stop => openStopStatuses.contains stop.status).length ∧
      { board with
        stops := numberedStops board.stops
          ((((board.stopsOf tripId).filter fun stop => terminalStopStatuses.contains stop.status) ++
            sequenceStops cfg TripStop.leg
              ((board.stopsOf tripId).filter fun stop => openStopStatuses.contains stop.status)
              (startingPoint cfg board trip.driverUsername
                ((((board.stopsOf tripId).filter fun stop => terminalStopStatuses.contains stop.status).getLast?.or
                  ((board.stopsOf tripId).filter fun stop =>
                    openStopStatuses.contains stop.status).head?).bind TripStop.place))).map
            fun stop => stop.id) } = later := by
  -- Two checks, and an UPDATE of the numbers.
  unfold optimiseTrip
  simp only [bind_ok, allow_ok, require_ok, demand_ok, pure_ok, exists_const, decide_eq_true_eq]

/-- What an accepted order of the stops has passed. -/
theorem reorderTrip_accepted {stopIds : List Nat} : reorderTrip board requester tripId stopIds = .ok later ↔
    dispatchRoles.contains requester.role = true ∧ (!stopIds.isEmpty) = true ∧
      (stopIds.length = ((board.stops.rows.filter fun stop => stop.tripId = tripId).map fun stop => stop.id).length &&
        stopIds.all ((board.stops.rows.filter fun stop => stop.tripId = tripId).map fun stop => stop.id).contains &&
        decide stopIds.Nodup) = true ∧
      { board with stops := numberedStops board.stops stopIds } = later := by
  -- The list has to name each stop of the run once.
  unfold reorderTrip
  simp only [bind_ok, allow_ok, require_ok, pure_ok, exists_const]

/-- What an accepted change of a run has passed: its driver may have it, and has no other active one. -/
theorem updateTrip_accepted {driver : Option (Option String)} {vehicleId : Option Nat} {status : Option TripStatus} :
    updateTrip board requester tripId driver vehicleId status = .ok later ↔
      dispatchRoles.contains requester.role = true ∧ status ≠ some .completed ∧
        ∃ current, board.trip tripId = some current ∧ current.status ≠ .completed ∧
        (if (driver.isSome || status = some .active) = true
          then driverAssignmentProblem board (driver.getD current.driverUsername) else none) = none ∧
        board.knows (driver.getD current.driverUsername) vehicleId = true ∧
        (status.getD current.status ≠ .active ||
          !board.driverBusy tripId (driver.getD current.driverUsername)) = true ∧
        Board.handedOver { board with
          trips := board.trips.update tripId (fun trip => { trip with
            driverUsername := driver.getD current.driverUsername, vehicleId := vehicleId.or trip.vehicleId
            status := status.getD current.status }) fun _ => rfl
          stops := if status = some TripStatus.cancelled
            then board.stops.updateWhere
              (fun stop => stop.tripId = tripId && openStopStatuses.contains stop.status)
              TripStop.cancelled fun _ => rfl
            else board.stops } (board.onTrip tripId) (driver.getD current.driverUsername) = later := by
  -- Behind the last of its checks it writes the run, its stops where it is cancelled, and its driver.
  unfold updateTrip
  simp only [bind_ok, allow_ok, require_ok, demand_ok, refuse_ok, pure_ok, exists_const, decide_eq_true_eq]

/-- What a change of a stop has passed before anything is written. -/
theorem stopChange_accepted {stopId : Nat} {asked : Option StopStatus} {reason : Option String} {stop : TripStop}
    {trip : Trip} {status : StopStatus} :
    stopChange cfg board requester stopId asked reason = .ok (stop, trip, status) ↔
      asked.filter driverStopTransitions.contains = some status ∧
        (!([.failed, .skipped].contains status && failureReasonOf reason = "")) = true ∧
        board.stop stopId = some stop ∧ board.trip stop.tripId = some trip ∧
        (requester.role ≠ .driver || sameName cfg trip.driverUsername requester.username) = true ∧
        (!terminalStopStatuses.contains stop.status) = true ∧
        (trip.status ≠ .planned || !board.driverBusy trip.id trip.driverUsername) = true := by
  -- The checks are made in this order, and hand on the stop, its run and the status.
  unfold stopChange
  simp only [bind_ok, require_ok, demand_ok, pure_ok, exists_const, Prod.mk.injEq]
  constructor
  · rintro ⟨_, named, reasoned, _, there, _, ofRun, theirs, unfinished, free, rfl, rfl, rfl⟩
    exact ⟨named, reasoned, there, ofRun, theirs, unfinished, free⟩
  · rintro ⟨named, reasoned, there, ofRun, theirs, unfinished, free⟩
    exact ⟨status, named, reasoned, stop, there, trip, ofRun, theirs, unfinished, free, rfl, rfl, rfl⟩

/-- Completing a stop looks at orders, their history and the clock alone. -/
theorem completed_congr {started : Board} (orders : started.orders = board.orders)
    (logs : started.logs = board.logs) (now : started.now = board.now) (stop : TripStop)
    (changedBy : String) :
    (started.completed stop changedBy).orders = (board.completed stop changedBy).orders ∧
      (started.completed stop changedBy).logs = (board.completed stop changedBy).logs := by
  unfold Board.completed Board.order
  rw [orders]
  -- Only the order of the stop is read.
  cases board.orders.find? stop.orderId with
  | none => exact ⟨orders, logs⟩
  | some order =>
    simp only
    split
    · exact ⟨orders, logs⟩
    · simp only [Board.changeOrder, Board.logged, orders, logs, now, and_self]

/-- It confirms nothing, and takes no time. -/
theorem completed_rest (board : Board) (stop : TripStop) (changedBy : String) :
    (board.completed stop changedBy).confirmations = board.confirmations ∧
      (board.completed stop changedBy).now = board.now := by
  -- It writes an order and its log at most.
  unfold Board.completed
  split
  · exact ⟨rfl, rfl⟩
  · simp only
    split <;> exact ⟨rfl, rfl⟩

/-- An accepted update of a stop does to orders and their history what completing the stop does, if it is done. -/
theorem updateStop_orders {stopId : Nat} {asked : Option StopStatus} {reason : Option String}
    (done : updateStop cfg board requester stopId asked reason = .ok later) :
    ∃ stop trip status, stopChange cfg board requester stopId asked reason = .ok (stop, trip, status) ∧
      later.orders = (if status = .done then board.completed stop requester.username else board).orders ∧
      later.logs = (if status = .done then board.completed stop requester.username else board).logs ∧
      later.confirmations = board.confirmations ∧ later.now = board.now := by
  unfold updateStop at done
  simp only [bind_ok, pure_ok] at done
  obtain ⟨⟨stop, trip, status⟩, passes, rfl⟩ := done
  refine ⟨stop, trip, status, passes, ?_⟩
  -- Finishing the run writes nothing but the run.
  have finished : ∀ (moved : Board) (stays : Bool) (trips : Table Trip fun trip => trip.id),
      (if stays then moved else { moved with trips := trips }).orders = moved.orders ∧
        (if stays then moved else { moved with trips := trips }).logs = moved.logs ∧
        (if stays then moved else { moved with trips := trips }).confirmations = moved.confirmations ∧
        (if stays then moved else { moved with trips := trips }).now = moved.now := by
    intro moved stays trips
    cases stays <;> exact ⟨rfl, rfl, rfl, rfl⟩
  rw [(finished _ _ _).1, (finished _ _ _).2.1, (finished _ _ _).2.2.1, (finished _ _ _).2.2.2]
  -- Nor does setting out.
  have started : ∀ (stops : Table TripStop fun stop => stop.id) (trips : Table Trip fun trip => trip.id),
      ({ board with stops := stops, trips := trips }.completed stop requester.username).orders =
          (board.completed stop requester.username).orders ∧
        ({ board with stops := stops, trips := trips }.completed stop requester.username).logs =
          (board.completed stop requester.username).logs := fun stops trips =>
    @completed_congr board { board with stops := stops, trips := trips } rfl rfl rfl stop requester.username
  split
  · exact ⟨(started _ _).1, (started _ _).2, completed_rest _ stop requester.username⟩
  · exact ⟨rfl, rfl, rfl, rfl⟩

end

end Freight.Dispatch
