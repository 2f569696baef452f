import Freight.Dispatch.History

/-! Runs and their stops over time: what every request of the trip controller leaves of them. -/

namespace Freight.Dispatch

/-- What can happen to runs, and around them. -/
inductive TripEvent where
  | createTrip (requester : Requester) (orderIds : List Nat) (driverUsername : Option String)
      (vehicleId : Option Nat)
  | optimiseTrip (requester : Requester) (tripId : Nat)
  | reorderTrip (requester : Requester) (tripId : Nat) (stopIds : List Nat)
  | updateTrip (requester : Requester) (tripId : Nat) (driverUsername : Option (Option String))
      (vehicleId : Option Nat) (status : Option TripStatus)
  | updateStop (requester : Requester) (stopId : Nat) (status : Option StopStatus)
      (failureReason : Option String)
  /-- Everything else changes as it will, and time passes: no other code writes to runs or stops. -/
  | elsewhere (orders : Table DispatchOrder fun order => order.id)
      (users : Table User fun user => user.username)
      (vehicles : Table FleetVehicle fun vehicle => vehicle.id)
      (driverDocuments : List (Document String)) (vehicleDocuments : List (Document Nat))
      (elapsed : Nat)

/-- One event in the life of the runs. -/
def tripStep (cfg : DispatchConfig) (board : Board) : TripEvent → Board
  | .createTrip requester orderIds driverUsername vehicleId =>
    committed board (createTrip cfg board requester orderIds driverUsername vehicleId)
  | .optimiseTrip requester tripId => committed board (optimiseTrip cfg board requester tripId)
  | .reorderTrip requester tripId stopIds => committed board (reorderTrip board requester tripId stopIds)
  | .updateTrip requester tripId driverUsername vehicleId status =>
    committed board (updateTrip board requester tripId driverUsername vehicleId status)
  | .updateStop requester stopId status failureReason =>
    committed board (updateStop cfg board requester stopId status failureReason)
  -- What happens elsewhere touches neither runs nor stops.
  | .elsewhere orders users vehicles driverDocuments vehicleDocuments elapsed =>
    { board with
      orders := orders, users := users, vehicles := vehicles, driverDocuments := driverDocuments
      vehicleDocuments := vehicleDocuments, now := board.now + elapsed }

/-- `REFERENCES trips(id)`: every stop is on a run that exists. -/
def Board.Rooted (board : Board) : Prop :=
  ∀ stop ∈ board.stops.rows, ∃ trip ∈ board.trips.rows, trip.id = stop.tripId

/-- A stop that is still to be made. -/
def TripStop.isOpen (stop : TripStop) : Bool := openStopStatuses.contains stop.status

/-- A run has a stop that is still to be made. -/
def Board.hasOpen (board : Board) (tripId : Nat) : Bool :=
  board.stops.rows.any fun stop => stop.tripId = tripId && stop.isOpen

/-- A run has an open stop when there is one on it. -/
theorem hasOpen_iff {board : Board} {tripId : Nat} :
    board.hasOpen tripId = true ↔ ∃ stop ∈ board.stops.rows, stop.tripId = tripId ∧ stop.isOpen = true := by
  -- The EXISTS of the query, read as a proposition.
  simp [Board.hasOpen, List.any_eq_true, Bool.and_eq_true]

variable {cfg : DispatchConfig} {board later : Board} {requester : Requester}

/-- Handing orders over leaves runs and stops alone. -/
theorem handedOver_runs (planned : Board) (chosen : DispatchOrder → Bool) (driver : Option String) :
    (planned.handedOver chosen driver).trips = planned.trips ∧
      (planned.handedOver chosen driver).stops = planned.stops := by
  -- With a driver or without, only orders are written.
  unfold Board.handedOver
  split <;> exact ⟨rfl, rfl⟩

/-- A completed stop leaves runs and stops alone. -/
theorem completed_runs (stop : TripStop) (changedBy : String) :
    (board.completed stop changedBy).trips = board.trips ∧
      (board.completed stop changedBy).stops = board.stops := by
  -- Whatever it finds, it writes an order and its log at most.
  unfold Board.completed
  split
  · exact ⟨rfl, rfl⟩
  · simp only
    split <;> exact ⟨rfl, rfl⟩

/-- The orders a new run is planned for, in the order they are read. -/
def Board.named (board : Board) (orderIds : List Nat) : List DispatchOrder :=
  board.orders.rows.filter fun order => orderIds.contains order.id

/-- A run that is planned is added with its stops, and no other is touched. -/
theorem createTrip_runs {orderIds : List Nat} {driver : Option String} {vehicle : Option Nat}
    (done : createTrip cfg board requester orderIds driver vehicle = .ok later) :
    later.trips.rows = board.trips.rows ++
        [{ id := board.trips.nextSerial, driverUsername := driver, vehicleId := vehicle }] ∧
      later.stops = plannedStops board.trips.nextSerial board.stops
        (board.planned cfg driver (board.named orderIds)) := by
  -- Handing the orders over writes neither runs nor stops.
  obtain ⟨-, -, -, -, -, -, -, -, rfl⟩ := createTrip_accepted.mp done
  exact ⟨congrArg Table.rows (handedOver_runs _ _ _).1, (handedOver_runs _ _ _).2⟩

/-- A stop as it is planned, whatever serial it gets. -/
def StopDraft.stop (draft : StopDraft) (tripId position id : Nat) : TripStop where
  id := id
  tripId := tripId
  orderId := draft.orderId
  kind := draft.kind
  sequence := position + 1
  place := draft.place

/-- The stops of a new run are added behind the others, numbered in their order. -/
theorem plannedStops_rows (tripId : Nat) (stops : Table TripStop fun stop => stop.id)
    (ordered : List StopDraft) :
    ∃ ids : List Nat, ids.length = ordered.length ∧
      (plannedStops tripId stops ordered).rows = stops.rows ++
        (ordered.zipIdx.zip ids).map fun item => item.1.1.stop tripId item.1.2 item.2 := by
  unfold plannedStops
  -- The induction follows the drafts, at whatever position they start.
  suffices general : ∀ (position : Nat) (stops : Table TripStop fun stop => stop.id),
      ∃ ids : List Nat, ids.length = ordered.length ∧
        ((ordered.zipIdx position).foldl (fun stops item => stops.insert (fun id => {
          id := id, tripId := tripId, orderId := item.1.orderId, kind := item.1.kind
          sequence := item.2 + 1, place := item.1.place }) fun _ => rfl) stops).rows = stops.rows ++
          ((ordered.zipIdx position).zip ids).map fun item =>
            item.1.1.stop tripId item.1.2 item.2 from general 0 stops
  induction ordered with
  | nil => exact fun _ stops => ⟨[], rfl, by simp⟩
  | cons draft rest ih =>
    intro position stops
    rw [List.zipIdx_cons, List.foldl_cons]
    obtain ⟨ids, long, rows⟩ := ih (position + 1) (stops.insert (fun id => {
      id := id, tripId := tripId, orderId := draft.orderId, kind := draft.kind
      sequence := position + 1, place := draft.place }) fun _ => rfl)
    refine ⟨stops.nextSerial :: ids, by simp [long], ?_⟩
    rw [rows, List.zip_cons_cons, List.map_cons, List.append_cons]
    rfl

/-- A stop of the board that has a new run is an old one, or the one at some position of the new run. -/
theorem mem_plannedStops (tripId : Nat) (stops : Table TripStop fun stop => stop.id)
    (ordered : List StopDraft) :
    ∃ ids : List Nat, ∀ stop ∈ (plannedStops tripId stops ordered).rows, stop ∈ stops.rows ∨
      ∃ (draft : StopDraft) (position id : Nat),
        ordered[position]? = some draft ∧ ids[position]? = some id ∧
        stop = draft.stop tripId position id := by
  obtain ⟨ids, -, rows⟩ := plannedStops_rows tripId stops ordered
  refine ⟨ids, fun stop member => ?_⟩
  rw [rows, List.mem_append] at member
  rcases member with old | new
  · exact .inl old
  · obtain ⟨⟨⟨draft, index⟩, id⟩, paired, rfl⟩ := List.mem_map.mp new
    -- A new stop pairs a draft with its position and an id.
    obtain ⟨position, there⟩ := List.mem_iff_getElem?.mp paired
    obtain ⟨drafted, numbered⟩ := List.getElem?_zip_eq_some.mp there
    rw [List.getElem?_zipIdx, Nat.zero_add] at drafted
    obtain ⟨_, is_draft, same⟩ := Option.map_eq_some_iff.mp drafted
    cases same
    exact .inr ⟨draft, index, id, is_draft, numbered, rfl⟩

/-- A change of a run writes its row, and closes its open stops where it is cancelled. -/
theorem updateTrip_runs {tripId : Nat} {driver : Option (Option String)} {vehicle : Option Nat}
    {status : Option TripStatus}
    (done : updateTrip board requester tripId driver vehicle status = .ok later) :
    ∃ trip, board.trip tripId = some trip ∧
      later.trips.rows = (board.trips.rows.map fun row => if row.id = tripId
        then { row with
          driverUsername := driver.getD trip.driverUsername, vehicleId := vehicle.or row.vehicleId
          status := status.getD trip.status }
        else row) ∧
      later.stops.rows = board.stops.rows.map fun stop =>
        if status = some TripStatus.cancelled ∧ stop.tripId = tripId ∧ stop.isOpen = true
        then stop.cancelled else stop := by
  obtain ⟨-, -, trip, there, -, -, -, -, rfl⟩ := updateTrip_accepted.mp done
  refine ⟨trip, there, (congrArg Table.rows (handedOver_runs _ _ _).1).trans ?_,
    (congrArg Table.rows (handedOver_runs _ _ _).2).trans ?_⟩
  · simp [Table.update, Table.updateWhere]
  · -- Only cancelling the run writes any of its stops.
    by_cases cancels : status = some TripStatus.cancelled
    · simp [cancels, Table.updateWhere, TripStop.isOpen]
    · simp [cancels]

/-- A run in another status. -/
def Trip.inStatus (trip : Trip) (status : TripStatus) : Trip := { trip with status := status }

/-- It is the same run still. -/
@[simp] theorem Trip.inStatus_id (trip : Trip) (status : TripStatus) : (trip.inStatus status).id = trip.id := rfl

/-- A run with nothing open left is finished. -/
def Board.finished (board : Board) (tripId : Nat) : Board :=
  if board.hasOpen tripId then board
  else { board with
    trips := board.trips.update tripId (fun trip => trip.inStatus .completed)
      fun trip => trip.inStatus_id .completed }

/-- What finishing a run does. -/
theorem finished_runs (tripId : Nat) :
    (board.finished tripId).stops = board.stops ∧
      (board.finished tripId).trips.rows = board.trips.rows.map fun row =>
        if row.id = tripId
        then row.inStatus (if board.hasOpen tripId then row.status else .completed) else row := by
  -- With a stop still open the run keeps its status.
  unfold Board.finished
  split
  · exact ⟨rfl, by simp [Trip.inStatus]⟩
  · simp [Table.update, Table.updateWhere]

/-- Working through a run writes the stop's row, starts the run, and finishes it with its last open stop. -/
theorem updateStop_runs {stopId : Nat} {asked : Option StopStatus} {reason : Option String}
    (done : updateStop cfg board requester stopId asked reason = .ok later) :
    ∃ stop trip status, stopChange cfg board requester stopId asked reason = .ok (stop, trip, status) ∧
      later.stops.rows = (board.stops.rows.map fun row =>
        if row.id = stopId then row.updated status (failureReasonOf reason) else row) ∧
      later.trips.rows = board.trips.rows.map fun row => if row.id = trip.id
        then row.inStatus (if later.hasOpen trip.id
          then (if trip.status = .planned then .active else row.status) else .completed)
        else row := by
  unfold updateStop at done
  simp only [bind_ok, pure_ok] at done
  obtain ⟨⟨stop, trip, status⟩, passes, is_it⟩ := done
  refine ⟨stop, trip, status, passes, ?_⟩
  -- Up to here the stop is written, and the run has been started where it had not set out.
  let started : Board := { board with
    stops := board.stops.update stopId
      (fun stop => stop.updated status (failureReasonOf reason)) fun _ => rfl
    trips := if trip.status = .planned
      then board.trips.update trip.id (fun trip => { trip with status := .active }) fun _ => rfl
      else board.trips }
  have starts : started.trips.rows = board.trips.rows.map fun row => if row.id = trip.id
      then row.inStatus (if trip.status = .planned then .active else row.status) else row := by
    -- A run that waits sets out with its first stop.
    by_cases waits : trip.status = .planned
    · simp [started, waits, Table.update, Table.updateWhere, Trip.inStatus]
    · simp [started, waits, Trip.inStatus]
  have writes : started.stops.rows = board.stops.rows.map fun row =>
      if row.id = stopId then row.updated status (failureReasonOf reason) else row := by
    simp [started, Table.update, Table.updateWhere]
  -- What a finished stop does to its order touches neither runs nor stops.
  obtain ⟨moved, trips_same, stops_same, rfl⟩ : ∃ moved : Board, moved.trips = started.trips ∧
      moved.stops = started.stops ∧ later = moved.finished trip.id := by
    refine ⟨if status = .done then started.completed stop requester.username else started, ?_, ?_,
      is_it.symm⟩
    · split
      · exact (completed_runs stop requester.username).1
      · rfl
    · split
      · exact (completed_runs stop requester.username).2
      · rfl
  obtain ⟨stops_kept, finishes⟩ := @finished_runs moved trip.id
  have open_same : (moved.finished trip.id).hasOpen trip.id = moved.hasOpen trip.id := by
    unfold Board.hasOpen
    rw [stops_kept]
  refine ⟨by rw [stops_kept, stops_same, writes], ?_⟩
  rw [finishes, open_same, trips_same, starts, List.map_map]
  apply List.map_congr_left
  -- Only the run of the stop can be over now.
  intro row _
  by_cases own : row.id = trip.id
  · simp [own, Trip.inStatus]
  · simp [own]

/-- Numbering stops anew changes nothing about them but their numbers. -/
theorem numberedStops_rows (stops : Table TripStop fun stop => stop.id) (ids : List Nat) :
    (numberedStops stops ids).rows = stops.rows.map fun stop =>
      if stop.id ∈ ids then { stop with sequence := ids.idxOf stop.id + 1 } else stop := by
  -- One UPDATE a stop, and each writes its number only.
  simp [numberedStops, Table.updateWhere]

/-- Optimising a run numbers its stops anew: those visited first, and then what is ahead in its order. -/
theorem optimiseTrip_runs {tripId : Nat} (done : optimiseTrip cfg board requester tripId = .ok later) :
    ∃ trip start, board.trip tripId = some trip ∧ later.trips = board.trips ∧
      later.stops = numberedStops board.stops
        (((board.stopsOf tripId).filter fun stop => terminalStopStatuses.contains stop.status) ++
          sequenceStops cfg TripStop.leg ((board.stopsOf tripId).filter TripStop.isOpen) start |>.map
            fun stop => stop.id) := by
  -- The handler writes numbers and nothing else.
  obtain ⟨-, trip, there, -, rfl⟩ := optimiseTrip_accepted.mp done
  exact ⟨trip, _, there, rfl, rfl⟩

/-- Reordering a run numbers its stops as the ids are listed. -/
theorem reorderTrip_runs {tripId : Nat} {stopIds : List Nat}
    (done : reorderTrip board requester tripId stopIds = .ok later) :
    later.trips = board.trips ∧ later.stops = numberedStops board.stops stopIds := by
  -- Accepted, all that is written is the numbers.
  obtain ⟨-, -, -, rfl⟩ := reorderTrip_accepted.mp done
  exact ⟨rfl, rfl⟩

/-- What the checks of a stop establish: it is there and open, and its run is there. -/
theorem stopChange_ok {stopId : Nat} {asked : Option StopStatus} {reason : Option String}
    {stop : TripStop} {trip : Trip} {status : StopStatus}
    (passes : stopChange cfg board requester stopId asked reason = .ok (stop, trip, status)) :
    board.stop stopId = some stop ∧ board.trip stop.tripId = some trip ∧
      terminalStopStatuses.contains stop.status = false ∧ status ∈ driverStopTransitions := by
  -- Each of these is one of its checks.
  obtain ⟨asked_is, -, there, of_run, -, unfinished, -⟩ := stopChange_accepted.mp passes
  refine ⟨there, of_run, by simpa using unfinished, ?_⟩
  have allowed := (Option.filter_eq_some_iff.mp asked_is).2
  exact List.contains_iff_mem.mp allowed

/-- A stop gets the status that was asked for. -/
theorem stopChange_asked {stopId : Nat} {asked : Option StopStatus} {reason : Option String}
    {stop : TripStop} {trip : Trip} {status : StopStatus}
    (passes : stopChange cfg board requester stopId asked reason = .ok (stop, trip, status)) :
    asked = some status := by
  -- What was asked for is let through when it is on the list.
  obtain ⟨among, -⟩ := stopChange_accepted.mp passes
  exact (Option.filter_eq_some_iff.mp among).1

end Freight.Dispatch
