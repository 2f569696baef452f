import Freight.Dispatch.Changes
import Freight.Dispatch.Load

/-! The five ways of giving a driver work, and the gates that each of them leaves out. -/

namespace Freight.Dispatch

variable {cfg : DispatchConfig} {board later : Board} {event : DispatchEvent} {id : Nat} {name : String}

/-- The order is on the board, pinned to the map at both ends. -/
def Placed (board : Board) (id : Nat) : Prop :=
  ∃ order, board.order id = some order ∧ order.isPlaced = true

/-- What a driver has to clear to be given an order. -/
inductive Gate where
  | placed
  | registered
  | notSuspended
  | hasVehicle
  | verified
  | capacity
  | cashHold
  deriving DecidableEq

/-- A gate is clear: for the driver as they were when it was decided, for the load as it is now. -/
def Gate.Clear (cfg : DispatchConfig) (board later : Board) (id : Nat) (name : String) : Gate → Prop
  | .placed => Placed later id
  | .registered => ∃ driver, board.registeredDriver name = some driver
  | .notSuspended => ∀ driver, board.registeredDriver name = some driver → driver.status ≠ .suspended
  | .hasVehicle => ∀ driver, board.registeredDriver name = some driver → board.vehiclesOf driver.id ≠ []
  | .verified => isDriverVerified board name = true
  -- What is already loaded counts, and so does this order.
  | .capacity => ∀ driver vehicle limit, board.registeredDriver name = some driver →
      board.vehicleOf driver.id = some vehicle → vehicle.maxWeightKg = some limit →
        (later.loadWith vehicle.id id : ℚ) ≤ limit
  | .cashHold => cashHoldFor cfg board name = none

/-- The ways of giving a driver work. -/
inductive Path where
  | assignment
  | reassignment
  | offer
  | newRun
  | changeOfDriver
  deriving DecidableEq

/-- A request that was accepted gives an order to a driver. -/
inductive GivesWork (cfg : DispatchConfig) (board : Board) :
    Path → Nat → String → Board → Prop where
  /-- The order is in a bundle that is assigned. -/
  | assigned (requester : Requester) (orderIds : List Nat) (name : String) (id : Nat) (later : Board)
      (listed : id ∈ orderIds)
      (done : assignOrderBundle cfg board requester orderIds name = .ok later) :
      GivesWork cfg board .assignment id name later
  /-- The order is reassigned, and not sent back to the queue. -/
  | reassigned (requester : Requester) (driverName : Option String) (name : String) (id : Nat)
      (later : Board) (done : reassignOrder cfg board requester id driverName = .ok later)
      (order : DispatchOrder) (left : later.order id = some order)
      (theirs : order.assignedTo = some name) : GivesWork cfg board .reassignment id name later
  /-- The order was offered, anything happened in between, and the offer is accepted. -/
  | accepted (start offered : Board) (requester driver : Requester) (orderIds : List Nat)
      (minutes : Option ℚ) (between : List DispatchEvent) (id : Nat) (later : Board)
      (listed : id ∈ orderIds)
      (sent : offerOrders start requester orderIds driver.username minutes = .ok offered)
      (happened : run (step cfg) offered between = board)
      (done : acceptOffer board driver id = .ok later) :
      GivesWork cfg board .offer id driver.username later
  /-- The order is put on a new run, with a driver. -/
  | planned (requester : Requester) (orderIds : List Nat) (name : String) (vehicleId : Option Nat)
      (id : Nat) (later : Board) (listed : id ∈ orderIds) (named : name ≠ "")
      (done : createTrip cfg board requester orderIds (some name) vehicleId = .ok later) :
      GivesWork cfg board .newRun id name later
  /-- The order is on a run that is given to a driver. -/
  | rerouted (requester : Requester) (tripId : Nat) (name : String) (vehicleId : Option Nat)
      (status : Option TripStatus) (order : DispatchOrder) (later : Board)
      (there : board.order order.id = some order) (aboard : board.onTrip tripId order = true)
      (named : name ≠ "")
      (done : updateTrip board requester tripId (some (some name)) vehicleId status = .ok later) :
      GivesWork cfg board .changeOfDriver order.id name later

/-- The gates a way of giving work does not ask about. -/
def Path.leavesOut : Path → List Gate
  | .assignment => [.notSuspended]
  | .reassignment => [.notSuspended, .cashHold]
  -- The offer asks for a placed order and a registered driver, and its acceptance for neither.
  | .offer => [.registered, .notSuspended, .hasVehicle, .verified, .capacity, .cashHold]
  | .newRun | .changeOfDriver => [.placed, .capacity, .cashHold]

/-- Every gate is clear. -/
def ClearsEveryGate (cfg : DispatchConfig) (board later : Board) (id : Nat) (name : String) : Prop :=
  ∀ gate : Gate, gate.Clear cfg board later id name

section Placed

/-- What an update of orders leaves under an id. -/
theorem order_of_written {chosen : DispatchOrder → Bool} {change : DispatchOrder → DispatchOrder}
    (written : later.orders.rows = board.orders.rows.map fun order =>
      if chosen order then change order else order)
    (keeps : ∀ order : DispatchOrder, (change order).id = order.id) (id : Nat) :
    later.order id = (board.order id).map fun order => if chosen order then change order else order := by
  -- An UPDATE rewrites the row that is found, and leaves its key.
  unfold Board.order
  rw [← Table.find?_updateWhere _ _ _ keeps]
  unfold Table.find?
  rw [written]
  rfl

/-- An update that unpins no order leaves every order that is placed where it is. -/
theorem placed_updateWhere {chosen : DispatchOrder → Bool} {change : DispatchOrder → DispatchOrder}
    (written : later.orders.rows = board.orders.rows.map fun order =>
      if chosen order then change order else order)
    (placed : Placed board id) (pinned : ∀ order, order.isPlaced = true → (change order).isPlaced = true)
    (keeps : ∀ order : DispatchOrder, (change order).id = order.id) : Placed later id := by
  -- The order is found where it was, rewritten or not, and pinned either way.
  obtain ⟨order, found, is_placed⟩ := placed
  refine ⟨if chosen order then change order else order, ?_, ?_⟩
  · rw [order_of_written written keeps, found, Option.map_some]
  · split
    · exact pinned order is_placed
    · exact is_placed

/-- An event that writes no order leaves every order that is placed where it is. -/
theorem placed_same (same : later.orders = board.orders) (placed : Placed board id) :
    Placed later id := by
  -- It is found in the same table.
  obtain ⟨order, found, is_placed⟩ := placed
  refine ⟨order, ?_, is_placed⟩
  unfold Board.order at found ⊢
  rw [same, found]

/-- A new order leaves every order that is placed where it is. -/
theorem placed_insert (row : Nat → DispatchOrder) (own : ∀ serial, (row serial).id = serial)
    (same : later.orders = board.orders.insert row own) (placed : Placed board id) :
    Placed later id := by
  -- An INSERT takes no id that is in use.
  obtain ⟨order, found, is_placed⟩ := placed
  refine ⟨order, ?_, is_placed⟩
  unfold Board.order at found ⊢
  rw [same]
  exact Table.find?_insert_of_some found

/-- A status update unpins nothing. -/
theorem isPlaced_statusUpdated (order : DispatchOrder) (status : OrderStatus) (code : String) :
    (order.statusUpdated cfg board status code).isPlaced = order.isPlaced := by
  -- Neither a new status nor a new code is a place.
  unfold DispatchOrder.statusUpdated
  split
  · simp only [DispatchOrder.codeIssued]
    split <;> rfl
  · rfl

/-- Handing orders to a run's driver unpins nothing. -/
theorem placed_handedOver {planned : Board} {chosen : DispatchOrder → Bool} {driver : Option String}
    (same : planned.orders = board.orders) (placed : Placed board id) :
    Placed (planned.handedOver chosen driver) id := by
  -- Without a driver nothing is written; with one, the name and the status are.
  unfold Board.handedOver
  split
  · exact placed_same same placed
  · rename_i name _
    have written := congrArg
      (fun orders => orders.updateWhere chosen (DispatchOrder.takenBy · name) fun _ => rfl) same
    exact placed_updateWhere (congrArg Table.rows written) placed (fun _ pinned => pinned) fun _ => rfl

/-- A refused transaction unpins nothing. -/
theorem placed_committed {result : Except Failure Board} (placed : Placed board id)
    (kept : ∀ written, result = .ok written → Placed written id) :
    Placed (committed board result) id := by
  -- A request that was refused has been rolled back.
  cases result with
  | ok written => exact kept written rfl
  | error failure => exact placed

section Handlers

variable {requester : Requester} {target : Nat}

/-- Reassigning an order unpins nothing, whether it goes to another driver or back to the queue. -/
theorem placed_reassignOrder {driverName : Option String} (placed : Placed board id)
    (done : reassignOrder cfg board requester target driverName = .ok later) : Placed later id := by
  -- Whichever half of the handler ran, it wrote no place.
  obtain ⟨-, order, -, -, -, ⟨-, rfl⟩ | ⟨-, -, driver, -, vehicle, -, -, -, rfl⟩⟩ :=
    reassignOrder_accepted.mp done
  · exact placed_updateWhere rfl placed (fun _ pinned => pinned) fun _ => rfl
  · exact placed_updateWhere rfl placed (fun _ pinned => pinned) fun _ => rfl

/-- Neither a change of status unpins an order, nor what its refusal leaves behind. -/
theorem placed_updateOrderStatus {asked : Option OrderStatus} {code : String} {committedLater : Bool}
    (placed : Placed board id) :
    Placed (step cfg board (.updateOrderStatus requester target asked code committedLater)) id := by
  simp only [step]
  split
  · rename_i written done
    obtain ⟨order, next, -, -, rfl⟩ := updateOrderStatus_accepted.mp done
    exact placed_updateWhere rfl placed
      (fun order is_placed => (isPlaced_statusUpdated order next code).trans is_placed)
      fun _ => statusUpdated_id ..
  · -- What a refusal may leave behind is the bare UPDATE of the status.
    unfold afterRefusedStatus
    split
    · split
      · exact placed_updateWhere rfl placed (fun _ pinned => pinned) fun _ => rfl
      · exact placed
    · exact placed

/-- Nor does a confirmation, or a wrong code that is counted. -/
theorem placed_confirmDelivery {proof : DeliveryProof} (placed : Placed board id) :
    Placed (step cfg board (.confirmDelivery requester target proof)) id := by
  -- Made, it writes the status and the proof; refused, the attempt at most.
  simp only [step]
  split
  · rename_i written done
    obtain ⟨_, -, order, -, -, -, rfl⟩ := confirmDelivery_accepted.mp done
    exact placed_updateWhere rfl placed (fun _ pinned => pinned) fun _ => rfl
  · unfold afterRefusedProof
    split
    · exact placed_updateWhere rfl placed (fun _ pinned => pinned) fun _ => rfl
    · exact placed

/-- A stop that is done moves its order on, and unpins nothing. -/
theorem placed_updateStop {status : Option StopStatus} {reason : Option String} (placed : Placed board id)
    (done : updateStop cfg board requester target status reason = .ok later) : Placed later id := by
  obtain ⟨stop, trip, status, -, found, -⟩ := updateStop_order done
  obtain ⟨order, there, is_placed⟩ := placed
  have after := found id
  split at after
  · -- It is the order of the stop: its status is new, and its places are what they were.
    rw [there] at after
    exact ⟨_, after, is_placed⟩
  · exact ⟨order, after.trans there, is_placed⟩

end Handlers

/-- No event unpins an order. -/
theorem placed_step (event : DispatchEvent) (placed : Placed board id) :
    Placed (step cfg board event) id := by
  -- Orders are only added to the board, and no column of a place is ever cleared.
  cases event with
  | createOrder requester request =>
    apply placed_committed placed
    intro written done
    obtain ⟨-, -, -, priced, -, rfl⟩ := createOrder_accepted.mp done
    exact placed_insert (request.row priced) (fun _ => rfl) rfl placed
  | publicCreateOrder request =>
    apply placed_committed placed
    intro written done
    obtain ⟨-, priced, -, rfl⟩ := publicCreateOrder_accepted.mp done
    exact placed_insert (request.row priced) (fun _ => rfl) rfl placed
  | placeOneOrder requester target pickup delivery pricing =>
    -- A placement pins its order, wherever it was before.
    apply placed_committed placed
    intro written done
    obtain ⟨-, -, _, -, -, rfl⟩ := placeOneOrder_accepted.mp done
    exact placed_updateWhere rfl placed (fun _ _ => rfl) fun _ => placed_id _ _
  | assignOrderBundle requester orderIds driverName =>
    apply placed_committed placed
    intro written done
    obtain ⟨-, -, -, driver, -, vehicle, -, -, -, -, -, -, rfl⟩ := assignOrderBundle_accepted.mp done
    exact placed_updateWhere rfl placed (fun _ pinned => pinned) fun _ => rfl
  | reassignOrder => exact placed_committed placed fun written done => placed_reassignOrder placed done
  | updateOrderStatus => exact placed_updateOrderStatus placed
  | confirmDelivery => exact placed_confirmDelivery placed
  | offerOrders requester orderIds driverName minutes =>
    apply placed_committed placed
    intro written done
    obtain ⟨-, -, driver, -, -, -, -, rfl⟩ := offerOrders_accepted.mp done
    exact placed_updateWhere rfl placed (fun _ pinned => pinned) fun _ => rfl
  | acceptOffer requester target =>
    apply placed_committed placed
    intro written done
    obtain ⟨-, order, -, -, rfl⟩ := acceptOffer_accepted.mp done
    exact placed_updateWhere rfl placed (fun _ pinned => pinned) fun _ => rfl
  | declineOffer requester target reason =>
    apply placed_committed placed
    intro written done
    obtain ⟨-, order, -, -, rfl⟩ := declineOffer_accepted.mp done
    exact placed_updateWhere rfl placed (fun _ pinned => pinned) fun _ => rfl
  | createTrip requester orderIds driver vehicle =>
    apply placed_committed placed
    intro written done
    obtain ⟨-, -, -, -, -, -, -, -, rfl⟩ := createTrip_accepted.mp done
    exact placed_handedOver rfl placed
  | updateTrip requester tripId driver vehicle status =>
    apply placed_committed placed
    intro written done
    obtain ⟨-, -, current, -, -, -, -, -, rfl⟩ := updateTrip_accepted.mp done
    exact placed_handedOver rfl placed
  | updateStop => exact placed_committed placed fun written done => placed_updateStop placed done
  | expireJobOffers | payment => exact placed_updateWhere rfl placed (fun _ pinned => pinned) fun _ => rfl
  | reportIncident | elsewhere => exact placed

end Placed

/-- What a run's driver has cleared. -/
theorem driverAssignmentProblem_none (named : name ≠ "")
    (none_found : driverAssignmentProblem board (some name) = none) :
    ∃ driver, board.registeredDriver name = some driver ∧ driver.status ≠ .suspended ∧
      board.vehiclesOf driver.id ≠ [] ∧ isDriverVerified board name = true := by
  have present : Payment.present (some name) = some name := by
    simp [Payment.present, named]
  unfold driverAssignmentProblem at none_found
  rw [present] at none_found
  simp only at none_found
  split at none_found
  · cases none_found
  · rename_i driver found
    -- Three questions more, and each would have been the problem.
    split at none_found
    · cases none_found
    · rename_i active
      split at none_found
      · cases none_found
      · rename_i vehicles
        split at none_found
        · cases none_found
        · rename_i papers
          exact ⟨driver, found, active, by simpa using vehicles, by simpa using papers⟩

/-- The gates that planning a run, or giving it to another driver, asks about. -/
theorem clear_of_driverAssignmentProblem (named : name ≠ "")
    (none_found : driverAssignmentProblem board (some name) = none) (gate : Gate)
    (asked : gate ∉ Path.newRun.leavesOut) : gate.Clear cfg board later id name := by
  -- What it found of the driver it found of the one row that has their name.
  obtain ⟨driver, found, active, vehicles, papers⟩ := driverAssignmentProblem_none named none_found
  have only : ∀ other, board.registeredDriver name = some other → other = driver := fun other again =>
    Option.some.inj (again.symm.trans found)
  cases gate with
  | registered => exact ⟨driver, found⟩
  | notSuspended => exact fun other again => only other again ▸ active
  | hasVehicle => exact fun other again => only other again ▸ vehicles
  | verified => exact papers
  | placed | capacity | cashHold => exact absurd (by decide) asked

/-- An order among those that were found placed is placed. -/
theorem isPlaced_of_unplacedAmong {orders : List DispatchOrder}
    (pinned : (unplacedAmong orders).isEmpty = true) {order : DispatchOrder} (member : order ∈ orders) :
    order.isPlaced = true := by
  -- The list of those without a place is empty.
  simp only [unplacedAmong, List.isEmpty_iff, List.map_eq_nil_iff, List.filter_eq_nil_iff] at pinned
  simpa using pinned order member

/-- Each order of a bundle whose rows were all locked is on the board, waiting and placed. -/
theorem found_of_pendingAmong {orderIds : List Nat}
    (all : (board.pendingAmong orderIds).length = orderIds.length)
    (pinned : (unplacedAmong (board.pendingAmong orderIds)).isEmpty = true) (listed : id ∈ orderIds) :
    ∃ order, board.order id = some order ∧ order.isPlaced = true := by
  -- As many rows were locked as were asked for, so this one is among them.
  obtain ⟨order, member, rfl, waiting⟩ := board.orders.passing_of_length all listed
  refine ⟨order, Table.find?_eq_some.mpr ⟨member, rfl⟩, isPlaced_of_unplacedAmong pinned ?_⟩
  unfold Board.pendingAmong
  exact List.mem_filter.mpr ⟨member, by simpa [listed] using waiting⟩

/-- The gates that assigning a bundle asks about. -/
theorem clear_of_assignOrderBundle {requester : Requester} {orderIds : List Nat}
    (listed : id ∈ orderIds) (done : assignOrderBundle cfg board requester orderIds name = .ok later)
    (gate : Gate) (asked : gate ∉ Path.assignment.leavesOut) : gate.Clear cfg board later id name := by
  obtain ⟨-, -, -, driver, found, vehicle, theirs, papers, unheld, all, pinned, fits, rfl⟩ := assignOrderBundle_accepted.mp done
  have only : ∀ other, board.registeredDriver name = some other → other = driver := fun other again =>
    Option.some.inj (again.symm.trans found)
  obtain ⟨order, there, placed⟩ := found_of_pendingAmong all pinned listed
  cases gate with
  | placed =>
    exact placed_updateWhere rfl ⟨order, there, placed⟩ (fun _ pinned => pinned) fun _ => rfl
  | registered => exact ⟨driver, found⟩
  | hasVehicle =>
    intro other again
    rw [only other again]
    exact Board.vehicleOf_isSome.mp (Option.isSome_of_eq_some theirs)
  | verified => exact papers
  | cashHold => exact unheld
  | notSuspended => exact absurd (by decide) asked
  | capacity =>
    -- The vehicle and its limit are those that were read under the lock.
    intro other truck limit again holds most
    obtain rfl := only other again
    obtain rfl := Option.some.inj (holds.symm.trans theirs)
    -- The order is on the vehicle now, with the rest of its bundle.
    refine le_trans ?_ (fits limit most)
    rw [@loadWith_of_on_board _ _ _ (order.assigned name truck.id)]
    · exact_mod_cast currentLoad_assigned rfl fun other member asked =>
        of_decide_eq_true (board.orders.passes_of_length all member (List.contains_iff_mem.mp asked))
    · have own := (Table.find?_eq_some.mp there).2
      refine (@order_of_written board _ (fun order => orderIds.contains order.id)
        (·.assigned name truck.id) rfl (fun _ => rfl) id).trans ?_
      rw [there, Option.map_some, if_pos]
      rw [own]
      exact List.contains_iff_mem.mpr listed
    · rfl

/-- The gates that reassigning an order asks about. -/
theorem clear_of_reassignOrder {requester : Requester} {driverName : Option String}
    {order : DispatchOrder} (done : reassignOrder cfg board requester id driverName = .ok later)
    (left : later.order id = some order) (theirs : order.assignedTo = some name) (gate : Gate)
    (asked : gate ∉ Path.reassignment.leavesOut) : gate.Clear cfg board later id name := by
  obtain ⟨-, before, there, placed, -, ⟨-, rfl⟩ | ⟨-, -, driver, found, vehicle, held, papers, fits, rfl⟩⟩ :=
    reassignOrder_accepted.mp done
  · -- Sent back to the queue, the order is nobody's.
    have unassigned := (board.order_changeOrder id DispatchOrder.unassigned DispatchOrder.unassigned_id id).symm.trans
      left
    rw [if_pos rfl, there, Option.map_some, Option.some.injEq] at unassigned
    rw [← unassigned] at theirs
    cases theirs
  · generalize String.ofList (trim (driverName.getD "").toList) = next at *
    -- The driver the order is left with is the one who was named.
    have written := (board.order_changeOrder id (fun order => { order with
      assignedTo := some next, vehicleId := some vehicle.id }) (fun _ => rfl) id).symm.trans left
    rw [if_pos rfl, there, Option.map_some, Option.some.injEq] at written
    obtain rfl : next = name := Option.some.inj ((congrArg (·.assignedTo) written).trans theirs)
    have only : ∀ other, board.registeredDriver next = some other → other = driver := fun other again =>
      Option.some.inj (again.symm.trans found)
    cases gate with
    | placed =>
      exact placed_updateWhere rfl ⟨before, there, placed⟩ (fun _ pinned => pinned) fun _ => rfl
    | registered => exact ⟨driver, found⟩
    | hasVehicle =>
      intro other again
      rw [only other again]
      exact Board.vehicleOf_isSome.mp (Option.isSome_of_eq_some held)
    | verified => exact papers
    | notSuspended | cashHold => exact absurd (by decide) asked
    | capacity =>
      intro other truck limit again holds most
      obtain rfl := only other again
      obtain rfl := Option.some.inj (holds.symm.trans held)
      refine le_trans ?_ (fits limit most)
      rw [loadWith_of_on_board left (by rw [← written])]
      exact_mod_cast currentLoad_reassigned there rfl

/-- The gates that an offer asks about, and nothing that happens in between can undo. -/
theorem clear_of_acceptOffer {start offered : Board} {requester driver : Requester}
    {orderIds : List Nat} {minutes : Option ℚ} {between : List DispatchEvent} (listed : id ∈ orderIds)
    (sent : offerOrders start requester orderIds driver.username minutes = .ok offered)
    (happened : run (step cfg) offered between = board) (done : acceptOffer board driver id = .ok later)
    (gate : Gate) (asked : gate ∉ Path.offer.leavesOut) :
    gate.Clear cfg board later id driver.username := by
  obtain ⟨-, -, _, -, -, all, pinned, same⟩ := offerOrders_accepted.mp sent
  cases gate with
  | placed =>
    -- Offered, it is placed, and it stays placed through all that happens in between.
    have offered : Placed offered id := by
      rw [← same]
      exact placed_updateWhere rfl (found_of_pendingAmong all pinned listed)
        (fun _ pinned => pinned) fun _ => rfl
    have still : Placed board id := by
      rw [← happened]
      have kept : ∀ board event, Placed board id → Placed (step cfg board event) id :=
        fun _ event placed => placed_step event placed
      exact (throughout_of_step kept offered).last
    obtain ⟨-, order, -, -, rfl⟩ := acceptOffer_accepted.mp done
    exact placed_updateWhere rfl still (fun _ pinned => pinned) fun _ => rfl
  | registered | notSuspended | hasVehicle | verified | capacity | cashHold =>
    exact absurd (by decide) asked

/-- Whatever a way of giving work asks about is clear when it gives the work. -/
theorem clear_of_givesWork {path : Path} (gives : GivesWork cfg board path id name later) (gate : Gate)
    (asked : gate ∉ path.leavesOut) : gate.Clear cfg board later id name := by
  -- One way of giving work after another.
  cases gives with
  | assigned requester orderIds _ _ _ listed done => exact clear_of_assignOrderBundle listed done gate asked
  | reassigned requester driverName _ _ _ done order left theirs =>
    exact clear_of_reassignOrder done left theirs gate asked
  | accepted start offered requester driver orderIds minutes between _ _ listed sent happened done =>
    exact clear_of_acceptOffer listed sent happened done gate asked
  | planned requester orderIds _ vehicleId _ _ listed named done =>
    obtain ⟨-, -, -, no_problem, -⟩ := createTrip_accepted.mp done
    exact clear_of_driverAssignmentProblem named no_problem gate asked
  | rerouted requester tripId _ vehicleId status order _ there aboard named done =>
    obtain ⟨-, -, current, -, -, no_problem, -⟩ := updateTrip_accepted.mp done
    exact clear_of_driverAssignmentProblem named no_problem gate asked

/-- An order is given through clear gates exactly when those its way leaves out are clear. -/
theorem clearsEveryGate_iff (cfg : DispatchConfig) (board later : Board) (path : Path) (id : Nat)
    (name : String) (gives : GivesWork cfg board path id name later) :
    ClearsEveryGate cfg board later id name ↔
      ∀ gate ∈ path.leavesOut, gate.Clear cfg board later id name := by
  -- The gates a way does not leave out are clear by its own checks.
  constructor
  · exact fun clear gate _ => clear gate
  · intro clear gate
    by_cases left_out : gate ∈ path.leavesOut
    · exact clear gate left_out
    · exact clear_of_givesWork gives gate left_out

/-- A driver with a vehicle and all papers approved, and an order waiting. -/
def oneDriver (status : UserStatus) : Board where
  orders := ⟨[{ id := 1, weightKg := 300, pickup := some ⟨-2, 30⟩, delivery := some ⟨-1, 30⟩ }], by decide⟩
  users := ⟨[{ id := 1, username := "+250788000001", role := .driver, status := status }],
    List.nodup_singleton _⟩
  vehicles := ⟨[{ id := 1, currentDriverId := some 1, maxWeightKg := some 1000 }], by decide⟩
  driverDocuments := driverDocumentTypes.map fun type =>
    { holder := "+250788000001", documentType := type, status := .approved }
  vehicleDocuments := vehicleDocumentTypes.map fun type =>
    { holder := 1, documentType := type, status := .approved }

/-- The order is assigned to the driver. -/
def assignedToThem (status : UserStatus) : Except Failure Board :=
  assignOrderBundle .kigali (oneDriver status) aDispatcher [1] "+250788000001"

/-- A request that was not refused was accepted with what it committed. -/
theorem accepted_of_isOk {result : Except Failure Board} (accepted : result.isOk = true) :
    result = .ok (committed board result) := by
  -- What is committed of an accepted request is its own board.
  cases result with
  | ok written => rfl
  | error failure => cases accepted

/-- The order can be given to the driver. -/
theorem clearsEveryGate_oneDriver :
    ClearsEveryGate .kigali (oneDriver .approved)
      (committed (oneDriver .approved) (assignedToThem .approved)) 1 "+250788000001" ↔
    ∀ gate ∈ Path.assignment.leavesOut, gate.Clear .kigali (oneDriver .approved)
      (committed (oneDriver .approved) (assignedToThem .approved)) 1 "+250788000001" :=
  clearsEveryGate_iff .kigali _ _ .assignment 1 _
    (.assigned aDispatcher [1] _ _ _ (by decide) (accepted_of_isOk (by decide +kernel)))

/-- A suspended driver is assigned an order. -/
theorem suspended_driver_given_work :
    GivesWork .kigali (oneDriver .suspended) .assignment 1 "+250788000001"
      (committed (oneDriver .suspended) (assignedToThem .suspended)) ∧
    ¬ ClearsEveryGate .kigali (oneDriver .suspended)
      (committed (oneDriver .suspended) (assignedToThem .suspended)) 1 "+250788000001" := by
  -- The assignment is accepted, and the driver it names is suspended.
  constructor
  · exact .assigned aDispatcher [1] _ _ _ (by decide) (accepted_of_isOk (by decide +kernel))
  · intro clear
    exact clear .notSuspended
      { id := 1, username := "+250788000001", role := .driver, status := .suspended }
      (by decide +kernel) rfl

end Freight.Dispatch
