import Freight.Dispatch.History
import Freight.Dispatch.Office
import Freight.Payment.OwnJobs

/-! Whether what a driver did stays theirs: finished jobs, recorded fares, and the debts that follow. -/

namespace Freight.Dispatch

open Payment (PaymentCall Statement cashOwedBy outstanding owes)

variable {cfg : DispatchConfig} {board later : Board}

/-- A job that is history: delivered, cancelled, or with its fare recorded as cash. -/
def DispatchOrder.closed (order : DispatchOrder) : Bool :=
  order.status = .delivered || order.status = .cancelled || order.paymentMethod = some .cash

/-- The order an id names is history. -/
def Closed (id : Nat) (pool : OfficePool) : Prop :=
  ∃ order, pool.shared.board.order id = some order ∧ order.closed = true

/-- Whose an order is, when there is such an order. -/
def Board.holder (board : Board) (id : Nat) : Option (Option String) :=
  (board.order id).map fun order => order.assignedTo

/-- The order still has a stop to be made on the run. -/
def Board.openOn (board : Board) (tripId id : Nat) : Bool :=
  board.stops.rows.any fun stop =>
    stop.tripId = tripId && stop.orderId = id && openStopStatuses.contains stop.status

/-- A change of a run touches only orders that still have an open stop on it. -/
def TouchesOpen (cfg : DispatchConfig) (board : Board) : OfficeEvent → Prop
  -- Whatever the change writes on an order, that order still has an open stop here.
  | .updateTrip requester tripId driver vehicle status =>
    ∀ order ∈ board.orders.rows, ∀ next,
      (OfficeEvent.onBoard cfg board (.updateTrip requester tripId driver vehicle status)).order order.id =
        some next →
      next.assignedTo ≠ order.assignedTo ∨ next.status ≠ order.status →
      board.openOn tripId order.id = true
  | _ => True

/-- A driver's debt changes only with a statement that records or clears a job of theirs. -/
def DebtsOwn (cfg : DispatchConfig) (pool : OfficePool) (event : OfficePoolEvent) : Prop :=
  ∀ driver, cashOwedBy cfg.services ((officeSystem cfg).step pool event).shared.store driver ≠
      cashOwedBy cfg.services pool.shared.store driver →
    ∃ statement, statementOf cfg pool event = some statement ∧
      ∃ row ∈ pool.shared.store.orders, row.assignedTo = some driver ∧
        statement.onJob pool.shared.store.orders row.id

/-- Every event keeps to what is its own. -/
def KeepsToOwn (cfg : DispatchConfig) (pool : OfficePool) (event : OfficePoolEvent) : Prop :=
  (∀ outside, event = .outside outside → TouchesOpen cfg pool.shared.board outside) ∧
    DebtsOwn cfg pool event

/-- Who is named when an order is reassigned: nobody, where the name is blank. -/
def namedDriver (driverName : Option String) : Option String :=
  Payment.present (some (String.ofList (trim (driverName.getD "").toList)))

/-- The checks of `reassignOrder`, on the order as it is. -/
structure Reassignable (cfg : DispatchConfig) (board : Board) (requester : Requester)
    (order : DispatchOrder) (driverName : Option String) : Prop where
  allowed : requester.role ∈ dispatchRoles
  placed : order.isPlaced = true
  waiting : order.status = .assigned
  able : ∀ name, namedDriver driverName = some name →
    sameName cfg order.assignedTo name = false ∧ isDriverVerified board name = true ∧
      ∃ driver vehicle, board.registeredDriver name = some driver ∧
        board.vehicleOf driver.id = some vehicle ∧
        ∀ limit, vehicle.maxWeightKg = some limit →
          (board.currentLoad vehicle.id (some order.id) + order.weightKg : ℚ) ≤ limit

/--
Nobody is put on a job that is history, and no run takes along an order it is done with.

A run hands its driver every order that ever had a stop on it: those have to be the driver's already,
where they are history or have nothing left open on the run.
-/
def Heeds (cfg : DispatchConfig) (board : Board) (closed : Nat → Prop) : OfficeEvent → Prop
  | .createTrip requester orderIds driver vehicle =>
    Plannable board requester orderIds driver vehicle → ∀ name, Payment.present driver = some name →
      ∀ order ∈ board.orders.rows, order.id ∈ orderIds → closed order.id →
        order.assignedTo = some name
  -- This hands on every order that ever had a stop on the run.
  | .updateTrip requester tripId driver vehicle status =>
    ∀ trip, board.trip tripId = some trip →
      Changeable board requester trip driver vehicle status →
      ∀ name, Payment.present (driver.getD trip.driverUsername) = some name →
        ∀ order ∈ board.orders.rows, board.onTrip tripId order = true →
          (closed order.id → order.assignedTo = some name) ∧
          (board.openOn tripId order.id = false →
            order.assignedTo = some name ∧ order.status ≠ .pending)
  -- A job that is history stays with its driver.
  | .reassignOrder requester id driverName =>
    ∀ order, board.order id = some order → Reassignable cfg board requester order driverName →
      closed id → order.assignedTo = namedDriver driverName
  | _ => True

/-- The orders are the ones that were there, with another status and another driver at most. -/
structure Rewritten (board later : Board) (change : DispatchOrder → DispatchOrder) : Prop where
  rows : later.orders.rows = board.orders.rows.map change
  row : ∀ order, (change order).toOrder =
    { order.toOrder with status := (change order).status, assignedTo := (change order).assignedTo }

namespace Rewritten

variable {change : DispatchOrder → DispatchOrder}

/-- What is found afterwards is what was found before, changed. -/
theorem order (rewritten : Rewritten board later change) (id : Nat) :
    later.order id = (board.order id).map change := by
  -- Keys are not rewritten, so a row is found where it was.
  have keys : ∀ order : DispatchOrder, (change order).id = order.id := fun order => by
    rw [rewritten.row order]
  unfold Board.order Table.find?
  rw [rewritten.rows, List.find?_map]
  congr 1
  apply congrArg (fun test => List.find? test board.orders.rows)
  funext order
  simp only [Function.comp_apply, keys]

/-- An order keeps its driver exactly when the change leaves it its driver. -/
theorem holder_iff (rewritten : Rewritten board later change) {closed : Nat → Prop} :
    (∀ id, closed id → later.holder id = board.holder id) ↔
      ∀ order ∈ board.orders.rows, closed order.id →
        (change order).assignedTo = order.assignedTo := by
  unfold Board.holder
  constructor
  · -- A row of the table is what a reader finds under its id.
    intro kept order member old
    have same := kept order.id old
    have found : board.order order.id = some order := Table.find?_eq_some.mpr ⟨member, rfl⟩
    rw [rewritten.order, found] at same
    exact Option.some.inj same
  · -- A reader who finds no order finds none later, and one who finds a row finds what became of it.
    intro kept id old
    rw [rewritten.order]
    cases found : board.order id with
    | none => rfl
    | some order =>
      obtain ⟨member, rfl⟩ := Table.find?_eq_some.mp found
      exact congrArg some (kept order member old)

/-- Where nobody is put on an order whose fare was recorded as cash, all debts stay as they are. -/
theorem outstanding (rewritten : Rewritten board later change) {books other : Payment.Store}
    (kept : ∀ order ∈ board.orders.rows, order.paymentMethod = some .cash →
      (change order).assignedTo = order.assignedTo) (driver : String) :
    Payment.outstanding (Office.store ⟨later, books⟩) driver =
      Payment.outstanding (Office.store ⟨board, other⟩) driver := by
  -- The payments read the same rows, each as the board has changed it.
  have after : (Office.store ⟨later, books⟩).orders =
      board.orders.rows.map fun order => (change order).toOrder := by
    unfold Office.store Board.store
    rw [rewritten.rows, List.map_map]
    rfl
  refine @Payment.outstanding_map _ driver _ board.orders.rows _ _ _ rfl after fun order member => ?_
  rw [rewritten.row order]
  by_cases cash : order.paymentMethod = some .cash
  · -- A cash order has its driver still, and a debt is read off its driver, fare and status alone.
    rw [kept order member cash]
    exact ⟨rfl, fun _ => rfl, fun _ => rfl⟩
  · -- A fare that was not recorded as cash leaves no debt with anybody.
    have nothing : owes driver order.toOrder = false := by simp [owes, Order.cashOutstanding, cash]
    refine ⟨?_, fun owed => absurd (nothing.symm.trans owed) Bool.false_ne_true,
      fun owed => absurd (nothing.symm.trans owed) Bool.false_ne_true⟩
    simp [owes, Order.cashOutstanding, cash]

end Rewritten

/-- Where no order is written to, none changes. -/
theorem rewritten_same (same : later.orders = board.orders) :
    Rewritten board later fun order => order where
  -- Each row is rewritten as itself.
  rows := by rw [same, List.map_id']
  row := fun _ => rfl

/-- An UPDATE rewrites the rows it chooses. -/
theorem rewritten_updateWhere {chosen : DispatchOrder → Bool} {change : DispatchOrder → DispatchOrder}
    {keeps : ∀ order : DispatchOrder, (change order).id = order.id}
    (same : later.orders = board.orders.updateWhere chosen change keeps)
    (row : ∀ order, (change order).toOrder =
      { order.toOrder with status := (change order).status, assignedTo := (change order).assignedTo }) :
    Rewritten board later fun order => if chosen order then change order else order where
  -- A row that is not chosen is rewritten as itself.
  rows := by rw [same]; rfl
  row := fun order => by
    split
    · exact row order
    · rfl

/-- A change to one order rewrites its row. -/
theorem rewritten_changeOrder {target : Nat} (change : DispatchOrder → DispatchOrder)
    (keeps : ∀ order : DispatchOrder, (change order).id = order.id)
    (same : later.orders = (board.changeOrder target change keeps).orders)
    (row : ∀ order, (change order).toOrder =
      { order.toOrder with status := (change order).status, assignedTo := (change order).assignedTo }) :
    Rewritten board later fun order => if order.id = target then change order else order := by
  -- Changing one order is an UPDATE that chooses its id.
  have rewritten := @rewritten_updateWhere _ _ _ _ keeps same row
  simp only [decide_eq_true_eq] at rewritten
  exact rewritten

/-- A run with a driver hands them the orders it chooses, and one without hands over nothing. -/
theorem handedOver_rewritten {planned : Board} (same : planned.orders = board.orders)
    (chosen : DispatchOrder → Bool) (driver : Option String) :
    (Payment.present driver = none ∧
        Rewritten board (planned.handedOver chosen driver) fun order => order) ∨
      ∃ name, Payment.present driver = some name ∧
        Rewritten board (planned.handedOver chosen driver)
          fun order => if chosen order then order.takenBy name else order := by
  unfold Board.handedOver
  split
  · rename_i nobody
    -- Without a driver nothing is written.
    exact .inl ⟨nobody, rewritten_same same⟩
  · rename_i name named
    have written := congrArg
      (fun orders => orders.updateWhere chosen (DispatchOrder.takenBy · name) fun _ => rfl) same
    exact .inr ⟨name, named, rewritten_updateWhere written fun _ => rfl⟩

/-- A completed stop writes the status of its order, and leaves every order its driver. -/
theorem completed_rewritten (stop : TripStop) (changedBy : String) :
    ∃ change, Rewritten board (board.completed stop changedBy) change ∧
      ∀ order, (change order).assignedTo = order.assignedTo := by
  -- At most the status of the stop's order is written.
  unfold Board.completed
  split
  · exact ⟨_, rewritten_same rfl, fun _ => rfl⟩
  · simp only
    split
    · exact ⟨_, rewritten_same rfl, fun _ => rfl⟩
    · refine ⟨_, rewritten_changeOrder (.movedTo (stopCompletionOrderStatus stop.kind)) (fun _ => rfl) rfl
        fun _ => rfl, fun order => ?_⟩
      split <;> rfl

/-- Working through a run leaves every order its driver. -/
theorem updateStop_rewritten {requester : Requester} {stopId : Nat} {asked : Option StopStatus}
    {reason : Option String} (done : updateStop cfg board requester stopId asked reason = .ok later) :
    ∃ change, Rewritten board later change ∧ ∀ order, (change order).assignedTo = order.assignedTo := by
  -- Whatever becomes of the run, orders are written by a stop that is done alone.
  obtain ⟨stop, trip, status, -, orders, -⟩ := updateStop_orders done
  by_cases is_done : status = .done
  · rw [if_pos is_done] at orders
    obtain ⟨change, rewritten, kept⟩ := @completed_rewritten board stop requester.username
    exact ⟨change, ⟨orders ▸ rewritten.rows, rewritten.row⟩, kept⟩
  · rw [if_neg is_done] at orders
    exact ⟨_, rewritten_same orders, fun _ => rfl⟩

/-- A blank name names nobody. -/
theorem namedDriver_blank {driverName : Option String}
    (blank : String.ofList (trim (driverName.getD "").toList) = "") : namedDriver driverName = none := by
  -- An empty name is no name.
  unfold namedDriver
  rw [blank]
  rfl

/-- Any other name names a driver. -/
theorem namedDriver_named {driverName : Option String}
    (named : String.ofList (trim (driverName.getD "").toList) ≠ "") :
    namedDriver driverName = some (String.ofList (trim (driverName.getD "").toList)) := by
  -- It is not blank, so it is present.
  simp [namedDriver, Payment.present, named]

/-- A reassigned order goes to whom the request names, and the others stay where they are. -/
theorem reassignOrder_rewritten {requester : Requester} {target : Nat} {driverName : Option String}
    (done : reassignOrder cfg board requester target driverName = .ok later) :
    ∃ change, Rewritten board later change ∧
      ∀ order, (change order).assignedTo =
        if order.id = target then namedDriver driverName else order.assignedTo := by
  obtain ⟨-, _, -, -, -, ⟨blank, rfl⟩ | ⟨named, -, driver, -, vehicle, -, -, -, rfl⟩⟩ :=
    reassignOrder_accepted.mp done
  · -- A blank name takes the driver off.
    refine ⟨_, rewritten_changeOrder _ DispatchOrder.unassigned_id rfl fun _ => rfl, fun order => ?_⟩
    rw [namedDriver_blank blank]
    split <;> rfl
  · -- Any other name has to be a registered driver with a vehicle that has room.
    refine ⟨_, rewritten_changeOrder (fun order => { order with
        assignedTo := some (String.ofList (trim (driverName.getD "").toList))
        vehicleId := some vehicle.id }) (fun _ => rfl) rfl fun _ => rfl, fun order => ?_⟩
    rw [namedDriver_named named]
    split <;> rfl

/-- An order that is there is reassigned exactly when the request passes its checks. -/
theorem reassignOrder_ok_iff {requester : Requester} {order : DispatchOrder} {id : Nat}
    {driverName : Option String} (there : board.order id = some order) :
    (∃ later, reassignOrder cfg board requester id driverName = .ok later) ↔
      Reassignable cfg board requester order driverName := by
  obtain rfl : order.id = id := (Table.find?_eq_some.mp there).2
  constructor
  · rintro ⟨later, done⟩
    obtain ⟨allowed, found, again, placed, waiting, named⟩ := reassignOrder_accepted.mp done
    obtain rfl := Option.some.inj (again.symm.trans there)
    refine ⟨List.contains_iff_mem.mp allowed, placed, waiting, fun name is_it => ?_⟩
    rcases named with ⟨blank, -⟩ | ⟨named, other, driver, registered, vehicle, holds, verified, fits, -⟩
    · -- With a blank name the checks end here.
      rw [namedDriver_blank blank] at is_it
      cases is_it
    · -- With a name they go on to its driver, the vehicle and the load.
      obtain rfl := Option.some.inj ((namedDriver_named named).symm.trans is_it)
      exact ⟨by simpa using other, verified, driver, vehicle, registered, holds, fits⟩
  · rintro ⟨allowed, placed, waiting, able⟩
    have allowed := List.contains_iff_mem.mpr allowed
    by_cases blank : String.ofList (trim (driverName.getD "").toList) = ""
    · exact ⟨_, reassignOrder_accepted.mpr ⟨allowed, order, there, placed, waiting, .inl ⟨blank, rfl⟩⟩⟩
    · obtain ⟨other, verified, driver, vehicle, registered, holds, fits⟩ := able _ (namedDriver_named blank)
      have another : (!sameName cfg order.assignedTo (String.ofList (trim (driverName.getD "").toList))) = true := by
        rw [other]
        rfl
      exact ⟨_, reassignOrder_accepted.mpr ⟨allowed, order, there, placed, waiting,
        .inr ⟨blank, another, driver, registered, vehicle, holds, verified, fits, rfl⟩⟩⟩

/-- An order that is handed over keeps its driver exactly when it is the new driver's already. -/
theorem taken_assignedTo_iff {chosen : DispatchOrder → Bool} {name : String} {order : DispatchOrder} :
    (if chosen order then order.takenBy name else order).assignedTo = order.assignedTo ↔
      (chosen order = true → order.assignedTo = some name) := by
  -- Taking an order writes the new driver's name on it.
  split
  · rename_i picked
    exact ⟨fun same _ => same.symm, fun theirs => (theirs picked).symm⟩
  · rename_i left
    exact iff_of_true rfl fun picked => absurd picked left

/-- Handing it over changes nothing exactly when it is theirs and is not waiting. -/
theorem taken_same_iff {chosen : DispatchOrder → Bool} {name : String} {order : DispatchOrder} :
    (if chosen order then order.takenBy name else order).assignedTo = order.assignedTo ∧
        (if chosen order then order.takenBy name else order).status = order.status ↔
      (chosen order = true → order.assignedTo = some name ∧ order.status ≠ .pending) := by
  -- Taking an order writes its driver, and its status where it waits.
  rw [taken_assignedTo_iff]
  by_cases picked : chosen order = true
  · simp only [picked, if_true, forall_const]
    refine and_congr_right fun _ => ?_
    by_cases waits : order.status = .pending <;> simp [DispatchOrder.takenBy, waits]
  · simp [picked]

/-- What a change of a run does to orders it is done with is seen row by row. -/
theorem touchesOpen_iff {requester : Requester} {tripId : Nat} {driver : Option (Option String)}
    {vehicle : Option Nat} {status : Option TripStatus} {change : DispatchOrder → DispatchOrder}
    (rewritten : Rewritten board
      (OfficeEvent.onBoard cfg board (.updateTrip requester tripId driver vehicle status)) change) :
    TouchesOpen cfg board (.updateTrip requester tripId driver vehicle status) ↔
      ∀ order ∈ board.orders.rows, board.openOn tripId order.id = false →
        (change order).assignedTo = order.assignedTo ∧ (change order).status = order.status := by
  unfold TouchesOpen
  -- After the change the row is found under the same id.
  have found : ∀ order ∈ board.orders.rows, (OfficeEvent.onBoard cfg board
      (.updateTrip requester tripId driver vehicle status)).order order.id = some (change order) := by
    intro order member
    have there : board.order order.id = some order := Table.find?_eq_some.mpr ⟨member, rfl⟩
    rw [rewritten.order, there]
    rfl
  refine forall₂_congr fun order member => ?_
  rw [found order member]
  simp only [Option.some.injEq, forall_eq']
  cases board.openOn tripId order.id <;> simp [not_or]

/-- A planned run hands its orders over, and writes to no other. -/
theorem createTrip_handsOver {requester : Requester} {orderIds : List Nat} {driver : Option String}
    {vehicle : Option Nat} (done : createTrip cfg board requester orderIds driver vehicle = .ok later) :
    ∃ planned : Board, later = planned.handedOver (fun order => orderIds.contains order.id) driver ∧
      planned.orders = board.orders := by
  -- The last thing it does is to hand its orders over, and before that it writes none.
  obtain ⟨-, -, -, -, -, -, -, -, rfl⟩ := createTrip_accepted.mp done
  exact ⟨_, rfl, rfl⟩

/-- A run that is changed hands over every order it ever had a stop for. -/
theorem updateTrip_handsOver {requester : Requester} {tripId : Nat} {driver : Option (Option String)}
    {vehicle : Option Nat} {status : Option TripStatus}
    (done : updateTrip board requester tripId driver vehicle status = .ok later) :
    ∃ trip, board.trip tripId = some trip ∧ ∃ planned : Board,
      later = planned.handedOver (board.onTrip tripId) (driver.getD trip.driverUsername) ∧
      planned.orders = board.orders := by
  -- The last thing it does is to hand the run's orders over, and before that it writes none.
  obtain ⟨-, -, trip, there, -, -, -, -, rfl⟩ := updateTrip_accepted.mp done
  exact ⟨trip, there, _, rfl, rfl⟩

/-- A request that is refused leaves the board as it is. -/
theorem committed_refused {result : Except Failure Board} (refused : ¬ ∃ later, result = .ok later) :
    committed board result = board := by
  -- It has not succeeded, so it has been rolled back.
  cases result with
  | ok later => exact absurd ⟨later, rfl⟩ refused
  | error failure => rfl

/-- What a handover does, whoever asks for it, and when it heeds what is history. -/
theorem handedOver_effect {planned : Board} (same : planned.orders = board.orders)
    (chosen : DispatchOrder → Bool) (driver : Option String) :
    ∃ change, Rewritten board (planned.handedOver chosen driver) change ∧
      ∀ order,
        ((change order).assignedTo = order.assignedTo ↔
          ∀ name, Payment.present driver = some name → chosen order = true →
            order.assignedTo = some name) ∧
        ((change order).assignedTo = order.assignedTo ∧ (change order).status = order.status ↔
          ∀ name, Payment.present driver = some name → chosen order = true →
            order.assignedTo = some name ∧ order.status ≠ .pending) := by
  -- Without a driver both sides hold of every order; with one they are read off the rows that are taken.
  rcases handedOver_rewritten same chosen driver with ⟨nobody, kept⟩ | ⟨name, named, taken⟩
  · simp only [nobody]
    exact ⟨_, kept, fun order => by simp⟩
  · refine ⟨_, taken, fun order => ?_⟩
    simp only [named, Option.some.injEq, forall_eq']
    exact ⟨taken_assignedTo_iff, taken_same_iff⟩

/-- The event does to the orders what it may exactly when it heeds what is history. -/
def Effect (cfg : DispatchConfig) (board : Board) (closed : Nat → Prop) (event : OfficeEvent) : Prop :=
  ∃ change, Rewritten board (event.onBoard cfg board) change ∧
    ((∀ order ∈ board.orders.rows, closed order.id → (change order).assignedTo = order.assignedTo) ∧
        TouchesOpen cfg board event ↔
      Heeds cfg board closed event)

/-- An event that writes to no order does what it may. -/
theorem effect_idle {closed : Nat → Prop} {event : OfficeEvent}
    (same : (event.onBoard cfg board).orders = board.orders) (heeds : Heeds cfg board closed event)
    (touches : TouchesOpen cfg board event) : Effect cfg board closed event :=
  ⟨_, rewritten_same same, iff_of_true ⟨fun _ _ _ => rfl, touches⟩ heeds⟩

/-- Planning a run puts its driver on the orders it is planned for. -/
theorem effect_createTrip {closed : Nat → Prop} {requester : Requester} {orderIds : List Nat}
    {driver : Option String} {vehicle : Option Nat} :
    Effect cfg board closed (.createTrip requester orderIds driver vehicle) := by
  by_cases plannable : Plannable board requester orderIds driver vehicle
  · obtain ⟨later, done⟩ : ∃ later, createTrip cfg board requester orderIds driver vehicle = .ok later :=
      createTrip_ok_iff.mpr plannable
    obtain ⟨planned, is_it, same⟩ := createTrip_handsOver done
    obtain ⟨change, rewritten, facts⟩ := handedOver_effect same (fun order => orderIds.contains order.id)
      driver
    refine ⟨change, ?_, ?_⟩
    · simpa only [OfficeEvent.onBoard, step, done, committed, is_it] using rewritten
    · -- Planning asks for orders by their ids, and hands each of them over whatever became of it before.
      simp only [(facts _).1, List.contains_iff_mem, TouchesOpen, and_true, Heeds, plannable,
        forall_const]
      exact ⟨fun kept name named order member asked old => kept order member old name named asked,
        fun heeds order member old name named asked => heeds name named order member asked old⟩
  · -- A request that is refused writes nothing, and heeds everything.
    have refused : ¬ ∃ later, createTrip cfg board requester orderIds driver vehicle = .ok later :=
      mt createTrip_ok_iff.mp plannable
    exact effect_idle (congrArg Board.orders (committed_refused refused))
      (fun passes => absurd passes plannable) trivial

/-- A change of a run puts its driver on every order that ever had a stop on it. -/
theorem effect_updateTrip {closed : Nat → Prop} {requester : Requester} {tripId : Nat}
    {driver : Option (Option String)} {vehicle : Option Nat} {status : Option TripStatus} :
    Effect cfg board closed (.updateTrip requester tripId driver vehicle status) := by
  by_cases changed : ∃ later, updateTrip board requester tripId driver vehicle status = .ok later
  · obtain ⟨later, done⟩ := changed
    obtain ⟨trip, there, planned, is_it, same⟩ := updateTrip_handsOver done
    obtain ⟨change, rewritten, facts⟩ := handedOver_effect same (board.onTrip tripId)
      (driver.getD trip.driverUsername)
    -- The change of the run is a change of the orders that have a stop on it.
    have written : Rewritten board
        (OfficeEvent.onBoard cfg board (.updateTrip requester tripId driver vehicle status)) change := by
      simpa only [OfficeEvent.onBoard, step, done, committed, is_it] using rewritten
    have changeable := (updateTrip_ok_iff there).mp ⟨later, done⟩
    refine ⟨change, written, ?_⟩
    rw [touchesOpen_iff written]
    simp only [Heeds, there, Option.some.injEq, forall_eq', changeable, forall_const]
    constructor
    · -- What the change keeps is asked of the orders that are history, and of those that this run is done with.
      rintro ⟨kept, touches⟩ name named order member aboard
      exact ⟨fun old => (facts order).1.mp (kept order member old) name named aboard,
        fun done_with => (facts order).2.mp (touches order member done_with) name named aboard⟩
    · intro heeds
      refine ⟨fun order member old => (facts order).1.mpr fun name named aboard => ?_,
        fun order member done_with => (facts order).2.mpr fun name named aboard => ?_⟩
      · exact (heeds name named order member aboard).1 old
      · exact (heeds name named order member aboard).2 done_with
  · refine effect_idle (congrArg Board.orders (committed_refused changed)) ?_ ?_
    · exact fun trip there passes => absurd ((updateTrip_ok_iff there).mpr passes) changed
    · -- Nothing is written, so nothing that is written differs.
      intro order member next found differs
      have kept : (committed board (updateTrip board requester tripId driver vehicle status)).order
          order.id = some next := found
      rw [committed_refused changed] at kept
      have there : board.order order.id = some order := Table.find?_eq_some.mpr ⟨member, rfl⟩
      obtain rfl := Option.some.inj (there.symm.trans kept)
      exact absurd differs (by simp)

/-- Working through a run puts nobody on anything. -/
theorem effect_updateStop {closed : Nat → Prop} {requester : Requester} {stopId : Nat}
    {status : Option StopStatus} {reason : Option String} :
    Effect cfg board closed (.updateStop requester stopId status reason) := by
  -- Done or not, it names no driver, so nobody is put on anything.
  by_cases changed : ∃ later, updateStop cfg board requester stopId status reason = .ok later
  · obtain ⟨later, done⟩ := changed
    obtain ⟨change, rewritten, kept⟩ := updateStop_rewritten done
    refine ⟨change, ?_, iff_of_true ⟨fun order _ _ => kept order, trivial⟩ trivial⟩
    simpa only [OfficeEvent.onBoard, step, done, committed] using rewritten
  · exact effect_idle (congrArg Board.orders (committed_refused changed)) trivial trivial

/-- A reassignment puts whom it names on its order. -/
theorem effect_reassignOrder {closed : Nat → Prop} {requester : Requester} {id : Nat}
    {driverName : Option String} :
    Effect cfg board closed (.reassignOrder requester id driverName) := by
  by_cases changed : ∃ later, reassignOrder cfg board requester id driverName = .ok later
  · obtain ⟨later, done⟩ := changed
    obtain ⟨change, rewritten, kept⟩ := reassignOrder_rewritten done
    refine ⟨change, ?_, ?_⟩
    · simpa only [OfficeEvent.onBoard, step, done, committed] using rewritten
    · simp only [kept, TouchesOpen, and_true, Heeds]
      constructor
      · -- The order that is named is the one row whose driver is written.
        intro spared order there passes old
        obtain ⟨member, own⟩ := Table.find?_eq_some.mp there
        have same := spared order member (own ▸ old)
        rw [if_pos own] at same
        exact same.symm
      · intro heeds order member old
        -- Every other row keeps its driver without being asked.
        split
        · rename_i own
          have there : board.order id = some order := Table.find?_eq_some.mpr ⟨member, own⟩
          exact (heeds order there ((reassignOrder_ok_iff there).mp ⟨later, done⟩) (own ▸ old)).symm
        · rfl
  · refine effect_idle (congrArg Board.orders (committed_refused changed)) ?_ trivial
    exact fun order there passes => absurd ((reassignOrder_ok_iff there).mpr passes) changed

/-- Whatever happens around the payment services does what it may exactly when it heeds what is history. -/
theorem effect (cfg : DispatchConfig) (board : Board) (closed : Nat → Prop) (event : OfficeEvent) :
    Effect cfg board closed event := by
  -- The four handlers that write orders have a lemma each, and the rest write none.
  cases event with
  | createTrip requester orderIds driver vehicle => exact effect_createTrip
  | updateTrip requester tripId driver vehicle status => exact effect_updateTrip
  | updateStop requester stopId status reason => exact effect_updateStop
  | reassignOrder requester id driverName => exact effect_reassignOrder
  | settle | decline | elsewhere => exact effect_idle rfl trivial trivial

variable {pool : OfficePool} {events : List OfficePoolEvent}

/-- No statement of the payment services puts anybody on an order. -/
theorem holder_inside {event : OfficePoolEvent} (inside : ∀ outside, event ≠ .outside outside) (id : Nat) :
    ((officeSystem cfg).step pool event).shared.board.holder id = pool.shared.board.holder id := by
  -- Statements of the payment services write other columns of the row.
  rcases officeStep_inside inside with same | ⟨statement, -, executed⟩
  · rw [same]
  · rw [executed]
    unfold Board.holder
    rw [Office.executed_order, Option.map_map]
    congr 1
    funext order
    exact (Payment.onOrder_same statement pool.shared.board.now order.toOrder).1

/-- A statement moves the debts of those drivers only whose jobs it records or clears. -/
theorem debtsOwn_inside {event : OfficePoolEvent} (inside : ∀ outside, event ≠ .outside outside) :
    DebtsOwn cfg pool event := by
  -- Were the driver none of those, the statement would have left their debts alone.
  intro driver differs
  rcases officeStep_inside inside with same | ⟨statement, runs, executed⟩
  · exact absurd (by rw [same]) differs
  · refine ⟨statement, runs, ?_⟩
    by_contra foreign
    push Not at foreign
    have kept := Payment.outstanding_execute_of_not_own foreign
    rw [executed, Office.executed_store] at differs
    exact differs (Payment.cashOwedBy_congr cfg.services kept)

/-- Where nobody is put on an order whose fare was recorded as cash, what happens outside moves no debt. -/
theorem debtsOwn_outside {event : OfficeEvent} {change : DispatchOrder → DispatchOrder}
    (rewritten : Rewritten pool.shared.board (event.onBoard cfg pool.shared.board) change)
    (kept : ∀ order ∈ pool.shared.board.orders.rows, order.paymentMethod = some .cash →
      (change order).assignedTo = order.assignedTo) :
    DebtsOwn cfg pool (.outside event) := by
  -- A debt is read off the cash jobs under the driver's name, and those are the same.
  intro driver differs
  rw [officeStep_outside] at differs
  exact absurd (Payment.cashOwedBy_congr cfg.services (rewritten.outstanding kept driver)) differs

/-- History stays with the driver who made it. -/
structure HistoryStays (cfg : DispatchConfig) (pool : OfficePool) (events : List OfficePoolEvent) :
    Prop where
  /-- A job that is history once is never put in another name. -/
  holder : ∀ id, FixedOnce (officeSystem cfg).step (Closed id)
    (fun pool => pool.shared.board.holder id) pool events
  /-- Changes of runs and debts keep to their own. -/
  own : Along (officeSystem cfg).step (KeepsToOwn cfg) pool events

/-- One event outside the services keeps to its own exactly when it heeds what has been history once. -/
theorem keeps_iff_heeds {prior : List OfficePoolEvent} {event : OfficeEvent} :
    ((∀ id, Once (officeSystem cfg).step (Closed id) pool prior →
        ((officeSystem cfg).step (run (officeSystem cfg).step pool prior)
            (.outside event)).shared.board.holder id =
          (run (officeSystem cfg).step pool prior).shared.board.holder id) ∧
      KeepsToOwn cfg (run (officeSystem cfg).step pool prior) (.outside event)) ↔
    Heeds cfg (run (officeSystem cfg).step pool prior).shared.board
      (fun id => Once (officeSystem cfg).step (Closed id) pool prior) event := by
  obtain ⟨change, rewritten, exactly⟩ := effect cfg
    (run (officeSystem cfg).step pool prior).shared.board
    (fun id => Once (officeSystem cfg).step (Closed id) pool prior) event
  rw [← exactly, officeStep_outside, rewritten.holder_iff]
  refine and_congr_right fun kept => ⟨fun own => own.1 event rfl, fun touches => ⟨?_, ?_⟩⟩
  · -- The event is outside the services, so it is the event itself that is asked about.
    rintro _ ⟨⟩
    exact touches
  · -- An order whose fare is recorded as cash is history by now.
    refine debtsOwn_outside rewritten fun order member cash => kept order member ?_
    exact ⟨prior, List.prefix_refl _, order, Table.find?_eq_some.mpr ⟨member, rfl⟩, by
      simp [DispatchOrder.closed, cash]⟩

/-- History stays with its driver exactly when every run and every reassignment heeds it. -/
theorem historyStays_iff :
    HistoryStays cfg pool events ↔
      ∀ prior event rest, events = prior ++ .outside event :: rest →
        Heeds cfg (run (officeSystem cfg).step pool prior).shared.board
          (fun id => Once (officeSystem cfg).step (Closed id) pool prior) event := by
  constructor
  · -- The claim about the whole run is asked at each event of it.
    rintro ⟨holder, own⟩ prior event rest same
    exact keeps_iff_heeds.mp ⟨fun id old => fixedOnce_iff.mp (holder id) prior _ rest same old,
      along_iff_each.mp own prior _ rest same⟩
  · intro heeds
    have each : ∀ prior event rest, events = prior ++ event :: rest →
        (∀ id, Once (officeSystem cfg).step (Closed id) pool prior →
          ((officeSystem cfg).step (run (officeSystem cfg).step pool prior) event).shared.board.holder id =
            (run (officeSystem cfg).step pool prior).shared.board.holder id) ∧
        KeepsToOwn cfg (run (officeSystem cfg).step pool prior) event := by
      intro prior event rest same
      -- Inside the services no driver is written and no debt changes hands, so only events outside matter.
      by_cases inside : ∀ outside, event ≠ .outside outside
      · exact ⟨fun id _ => holder_inside inside id,
          fun outside is_it => absurd is_it (inside outside), debtsOwn_inside inside⟩
      · push Not at inside
        obtain ⟨outside, rfl⟩ := inside
        exact keeps_iff_heeds.mpr (heeds prior outside rest same)
    exact ⟨fun id => fixedOnce_iff.mpr fun prior event rest same => (each prior event rest same).1 id,
      along_iff_each.mpr fun prior event rest same => (each prior event rest same).2⟩

/-- A job one driver left undone on a run of theirs, and another has since delivered and been paid for. -/
def deliveredByAnother : Office where
  board := {
    orders := ⟨[
      { id := 1, status := .delivered, assignedTo := some "+250788000002", platformFee := some 150
        paymentStatus := .paid, paymentMethod := some .cash, cashCollectedAt := some 5 },
      { id := 2, status := .assigned, assignedTo := some "+250788000001" }], by decide⟩
    trips := ⟨[
      { id := 1, driverUsername := some "+250788000001", status := .active },
      { id := 2, driverUsername := some "+250788000002", status := .completed }], by decide⟩
    stops := ⟨[
      { id := 1, tripId := 1, orderId := 1, kind := .pickup, sequence := 1, status := .skipped },
      { id := 2, tripId := 1, orderId := 1, kind := .drop, sequence := 2, status := .skipped },
      { id := 3, tripId := 1, orderId := 2, kind := .pickup, sequence := 3 },
      { id := 4, tripId := 1, orderId := 2, kind := .drop, sequence := 4 },
      { id := 5, tripId := 2, orderId := 1, kind := .pickup, sequence := 1, status := .done },
      { id := 6, tripId := 2, orderId := 1, kind := .drop, sequence := 2, status := .done }], by decide⟩
    users := ⟨[
      { id := 1, username := "+250788000001", role := .driver },
      { id := 2, username := "+250788000002", role := .driver }], by decide⟩
    now := 9 }
  books := { orders := [] }

/-- Cancelling the first driver's run puts the delivered and paid job back in their name. -/
theorem history_taken_along :
    ¬ HistoryStays .kigali ⟨deliveredByAnother, []⟩
      [.outside (.updateTrip aDispatcher 1 none none (some .cancelled))] := by
  -- Before the event the order is in another's name, and afterwards in the first driver's.
  intro stays
  have kept := stays.holder 1 [] [.outside (.updateTrip aDispatcher 1 none none (some .cancelled))]
    (List.prefix_refl _) ⟨_, rfl, rfl⟩
  have moved : (run (officeSystem .kigali).step ⟨deliveredByAnother, []⟩
      [.outside (.updateTrip aDispatcher 1 none none (some .cancelled))]).shared.board.holder 1 =
        some (some "+250788000001") := by decide
  rw [List.nil_append] at kept
  exact absurd (moved.symm.trans kept) (by decide)

end Freight.Dispatch
