import Freight.Dispatch.Orders
import Freight.Library.Pool

/-! Assignments and reassignments as open transactions, a statement at a time under row locks. -/

namespace Freight.Dispatch

/-- A row a transaction may keep locked until it ends. -/
inductive RowLock where
  | vehicle (id : Nat)
  | order (id : Nat)
  deriving DecidableEq

/-- What `assignOrderBundle` is asked. -/
structure Bundle where
  requester : Requester
  orderIds : List Nat
  driverName : String

/-- What `reassignOrder` is asked. -/
structure Reassignment where
  requester : Requester
  id : Nat
  driverName : Option String

/-- The driver a reassignment names, or blank where it names none. -/
def Reassignment.nextDriver (asked : Reassignment) : String :=
  String.ofList (trim (asked.driverName.getD "").toList)

/-- A transaction of `assignOrderBundle`, by its next statement. -/
inductive AssignCall where
  | selectDriver (asked : Bundle)
  | lockVehicle (asked : Bundle) (driverId : Nat)
  | readPapers (asked : Bundle) (vehicle : FleetVehicle)
  | readCash (asked : Bundle) (vehicle : FleetVehicle)
  | lockOrders (asked : Bundle) (vehicle : FleetVehicle)
  | readLoad (asked : Bundle) (vehicle : FleetVehicle) (found : List DispatchOrder)
  | update (asked : Bundle) (vehicle : FleetVehicle) (found : List DispatchOrder)
  | insertLogs (asked : Bundle) (vehicle : FleetVehicle) (found : List DispatchOrder)
  | commit (asked : Bundle) (vehicle : FleetVehicle) (found : List DispatchOrder)
  | done (answer : Except Failure Unit)

/-- A transaction of `reassignOrder`, by its next statement. -/
inductive ReassignCall where
  | lockOrder (asked : Reassignment)
  /-- Back to the queue. -/
  | unassign (asked : Reassignment) (order : DispatchOrder)
  | logUnassigned (asked : Reassignment) (order : DispatchOrder)
  | commitUnassigned (asked : Reassignment) (order : DispatchOrder)
  /-- To another driver. -/
  | selectDriver (asked : Reassignment) (order : DispatchOrder)
  | lockVehicle (asked : Reassignment) (order : DispatchOrder) (driverId : Nat)
  | readPapers (asked : Reassignment) (order : DispatchOrder) (vehicle : FleetVehicle)
  | readLoad (asked : Reassignment) (order : DispatchOrder) (vehicle : FleetVehicle)
  | update (asked : Reassignment) (order : DispatchOrder) (vehicle : FleetVehicle)
  | insertLog (asked : Reassignment) (order : DispatchOrder) (vehicle : FleetVehicle)
  | commit (asked : Reassignment) (order : DispatchOrder) (vehicle : FleetVehicle)
  | done (answer : Except Failure Unit)

/-- A transaction in flight. -/
inductive LoadingCall where
  | assign (call : AssignCall)
  | reassign (call : ReassignCall)
  /-- Its connection is gone, and the database has rolled it back. -/
  | stopped

/-- What begins a transaction. -/
inductive LoadingEntry where
  | assignOrderBundle (asked : Bundle)
  | reassignOrder (asked : Reassignment)

/-- A statement, by what the other transactions see of it. -/
inductive LoadingStatement where
  /-- A SELECT, or a write that is still to be committed. -/
  | unseen
  /-- `FOR UPDATE`. -/
  | lock (rows : List RowLock)
  | commitBundle (asked : Bundle) (vehicleId : Nat)
  | commitUnassigned (asked : Reassignment)
  | commitReassigned (asked : Reassignment) (vehicleId : Nat)

/-- What the database answers a statement with. -/
inductive LoadingAnswer where
  | works
  /-- An error, a deadlock's victim among them: the transaction is rolled back. -/
  | fails
  deriving DecidableEq

/-- A bundle assigned, as its transaction commits it. -/
def Board.bundleAssigned (board : Board) (asked : Bundle) (vehicleId : Nat) : Board :=
  { board with
    orders := board.orders.updateWhere (fun order => asked.orderIds.contains order.id)
      (fun order => order.assigned asked.driverName vehicleId) fun _ => rfl
    logs := board.logs ++ asked.orderIds.map fun id =>
      { orderId := id, previousStatus := .pending, newStatus := .assigned
        changedBy := asked.requester.username, changedAt := board.now } }

/-- An order sent back to the queue, as its transaction commits it. -/
def Board.orderUnassigned (board : Board) (asked : Reassignment) : Board :=
  (board.changeOrder asked.id DispatchOrder.unassigned DispatchOrder.unassigned_id).logged
    asked.id .assigned .pending asked.requester.username

/-- An order reassigned, as its transaction commits it. -/
def Board.orderReassigned (board : Board) (asked : Reassignment) (vehicleId : Nat) : Board :=
  (board.changeOrder asked.id
    (fun order => { order with assignedTo := some asked.nextDriver, vehicleId := some vehicleId })
    fun _ => rfl).logged asked.id .assigned .assigned asked.requester.username

/-- What a statement does to what is committed. -/
def LoadingStatement.execute (board : Board) : LoadingStatement → Board
  | .unseen | .lock _ => board
  | .commitBundle asked vehicleId => board.bundleAssigned asked vehicleId
  | .commitUnassigned asked => board.orderUnassigned asked
  | .commitReassigned asked vehicleId => board.orderReassigned asked vehicleId

/-- The rows a statement waits for. -/
def LoadingStatement.needs : LoadingStatement → List RowLock
  | .lock rows => rows
  | _ => []

/-- Once its orders are locked, a bundle is checked, and weighed where the vehicle has a limit. -/
def AssignCall.locked (asked : Bundle) (vehicle : FleetVehicle) (found : List DispatchOrder) :
    AssignCall :=
  if found.length ≠ asked.orderIds.length then .done (.error .assignConflict)
  else if (unplacedAmong found).isEmpty then
    if vehicle.maxWeightKg.isNone then .update asked vehicle found
    else .readLoad asked vehicle found
  else .done (.error (.unplaced (unplacedAmong found)))

/-- The statement a transaction of `assignOrderBundle` is at, and where it goes from there. -/
def AssignCall.next (cfg : DispatchConfig) (board : Board) : AssignCall → LoadingStatement × AssignCall
  | .selectDriver asked =>
    (.unseen, match board.registeredDriver asked.driverName with
      | none => .done (.error (.notRegistered asked.driverName))
      | some driver => .lockVehicle asked driver.id)
  | .lockVehicle asked driverId =>
    match board.vehicleOf driverId with
    | none => (.unseen, .done (.error (.noVehicle asked.driverName)))
    | some vehicle => (.lock [.vehicle vehicle.id], .readPapers asked vehicle)
  | .readPapers asked vehicle =>
    (.unseen, if isDriverVerified board asked.driverName then .readCash asked vehicle
      else .done (.error (.unverified asked.driverName)))
  | .readCash asked vehicle =>
    (.unseen, match cashHoldFor cfg board asked.driverName with
      | some failure => .done (.error failure)
      | none => .lockOrders asked vehicle)
  | .lockOrders asked vehicle =>
    -- A row that stops being PENDING while it is waited for is not returned.
    let found := board.pendingAmong asked.orderIds
    (.lock (found.map fun order => .order order.id), AssignCall.locked asked vehicle found)
  | .readLoad asked vehicle found =>
    (.unseen, match checkCapacity vehicle (board.currentLoad vehicle.id none) (totalWeight found) with
      | .error failure => .done (.error failure)
      | .ok _ => .update asked vehicle found)
  | .update asked vehicle found => (.unseen, .insertLogs asked vehicle found)
  | .insertLogs asked vehicle found => (.unseen, .commit asked vehicle found)
  | .commit asked vehicle _ => (.commitBundle asked vehicle.id, .done (.ok ()))
  | .done answer => (.unseen, .done answer)

/-- Once its order is locked, a reassignment is checked, and goes one of two ways. -/
def ReassignCall.locked (cfg : DispatchConfig) (asked : Reassignment) (order : DispatchOrder) :
    ReassignCall :=
  -- The checks are on the row as it is locked.
  if !order.isPlaced then .done (.error (.unplaced [asked.id]))
  else if order.status ≠ .assigned then .done (.error (.reassignState order.status))
  else if asked.nextDriver = "" then .unassign asked order
  else if sameName cfg order.assignedTo asked.nextDriver then
    .done (.error (.sameDriver order.assignedTo))
  else .selectDriver asked order

/-- The statement a transaction of `reassignOrder` is at, and where it goes from there. -/
def ReassignCall.next (cfg : DispatchConfig) (board : Board) :
    ReassignCall → LoadingStatement × ReassignCall
  | .lockOrder asked =>
    match board.order asked.id with
    | none => (.unseen, .done (.error .orderNotFound))
    | some order => (.lock [.order asked.id], ReassignCall.locked cfg asked order)
  -- Back to the pool: the row and its log, and the COMMIT of both.
  | .unassign asked order => (.unseen, .logUnassigned asked order)
  | .logUnassigned asked order => (.unseen, .commitUnassigned asked order)
  | .commitUnassigned asked _ => (.commitUnassigned asked, .done (.ok ()))
  -- To another driver: their vehicle is locked before its load is read.
  | .selectDriver asked order =>
    (.unseen, match board.registeredDriver asked.nextDriver with
      | none => .done (.error (.notRegistered asked.nextDriver))
      | some driver => .lockVehicle asked order driver.id)
  | .lockVehicle asked order driverId =>
    match board.vehicleOf driverId with
    | none => (.unseen, .done (.error (.noVehicle asked.nextDriver)))
    | some vehicle => (.lock [.vehicle vehicle.id], .readPapers asked order vehicle)
  | .readPapers asked order vehicle =>
    (.unseen, if isDriverVerified board asked.nextDriver then
        if vehicle.maxWeightKg.isNone then .update asked order vehicle
        else .readLoad asked order vehicle
      else .done (.error (.unverified asked.nextDriver)))
  | .readLoad asked order vehicle =>
    (.unseen, match checkCapacity vehicle (board.currentLoad vehicle.id (some asked.id)) order.weightKg with
      | .error failure => .done (.error failure)
      | .ok _ => .update asked order vehicle)
  | .update asked order vehicle => (.unseen, .insertLog asked order vehicle)
  | .insertLog asked order vehicle => (.unseen, .commit asked order vehicle)
  | .commit asked _ vehicle => (.commitReassigned asked vehicle.id, .done (.ok ()))
  | .done answer => (.unseen, .done answer)

/-- The statement a transaction is at, and where it goes from there. -/
def LoadingCall.next (cfg : DispatchConfig) (board : Board) (answer : LoadingAnswer) :
    LoadingCall → LoadingStatement × LoadingCall
  | .assign call =>
    -- A statement that fails rolls the transaction back.
    if answer = .fails then (.unseen, .assign (.done (.error .database)))
    else (call.next cfg board).map id .assign
  | .reassign call =>
    if answer = .fails then (.unseen, .reassign (.done (.error .database)))
    else (call.next cfg board).map id .reassign
  | .stopped => (.unseen, .stopped)

/-- The rows a transaction of `assignOrderBundle` has locked. -/
def AssignCall.holds : AssignCall → List RowLock
  | .selectDriver _ | .lockVehicle _ _ | .done _ => []
  | .readPapers _ vehicle | .readCash _ vehicle | .lockOrders _ vehicle => [.vehicle vehicle.id]
  | .readLoad _ vehicle found | .update _ vehicle found | .insertLogs _ vehicle found
  | .commit _ vehicle found => .vehicle vehicle.id :: found.map fun order => .order order.id

/-- The rows a transaction of `reassignOrder` has locked. -/
def ReassignCall.holds : ReassignCall → List RowLock
  | .lockOrder _ | .done _ => []
  | .unassign asked _ | .logUnassigned asked _ | .commitUnassigned asked _ | .selectDriver asked _
  | .lockVehicle asked _ _ => [.order asked.id]
  | .readPapers asked _ vehicle | .readLoad asked _ vehicle | .update asked _ vehicle
  | .insertLog asked _ vehicle | .commit asked _ vehicle => [.vehicle vehicle.id, .order asked.id]

/-- The rows a transaction has locked. -/
def LoadingCall.holds : LoadingCall → List RowLock
  | .assign call => call.holds
  | .reassign call => call.holds
  | .stopped => []

/-- The checks on a request that come before its transaction. -/
def LoadingEntry.start : LoadingEntry → LoadingCall
  | .assignOrderBundle asked =>
    -- What is refused here begins no transaction.
    match (do
      allow dispatchRoles asked.requester
      require (!asked.orderIds.isEmpty) .assignPayload
      require (trim asked.driverName.toList ≠ []) .driverNotSpecified : Except Failure Unit) with
    | .error failure => .assign (.done (.error failure))
    | .ok _ => .assign (.selectDriver asked)
  | .reassignOrder asked =>
    match allow dispatchRoles asked.requester with
    | .error failure => .reassign (.done (.error failure))
    | .ok _ => .reassign (.lockOrder asked)

/-- A status update that finishes an order, in a transaction of its own. -/
inductive Finishing where
  /-- `updateOrderStatus`, to CANCELLED. -/
  | cancel (requester : Requester) (id : Nat) (code : String)
  /-- `confirmDelivery`. -/
  | deliver (requester : Requester) (id : Nat) (proof : DeliveryProof)

/-- The order that is finished. -/
def Finishing.id : Finishing → Nat
  | .cancel _ id _ | .deliver _ id _ => id

/-- What finishing an order commits. -/
def Finishing.happens (cfg : DispatchConfig) (board : Board) : Finishing → Board
  | .cancel requester id code =>
    match updateOrderStatus cfg board requester id (some .cancelled) code with
    | .ok written => written
    | .error _ => board
  | .deliver requester id proof =>
    match confirmDelivery cfg board requester id proof with
    | .ok written => written
    -- A wrong code is counted, though the delivery is refused.
    | .error failure => afterRefusedProof board id failure

/-- Assignments, reassignments and finished orders over one board, in any interleaving. -/
def loading (cfg : DispatchConfig) :
    CallSystem Board LoadingStatement LoadingEntry LoadingCall LoadingAnswer Finishing RowLock where
  start := LoadingEntry.start
  next := fun board answer call => call.next cfg board answer
  execute := fun statement board => statement.execute board
  holds := LoadingCall.holds
  needs := LoadingStatement.needs
  outside := fun finishing board => finishing.happens cfg board
  -- A status update locks the row of its order first.
  outsideNeeds := fun finishing => [.order finishing.id]
  stopped := .stopped

section Alone

variable {cfg : DispatchConfig} {board later : Board}

/-- A transaction that runs some of its statements with nobody in its way. -/
def alone (cfg : DispatchConfig) (board : Board) (call : LoadingCall) (statements : Nat) :
    Pool Board LoadingCall :=
  run (loading cfg).step ⟨board, [call]⟩ (List.replicate statements (.run 0 .works))

/-- Alone, a transaction runs one statement after another. -/
theorem alone_succ (call : LoadingCall) (statements : Nat) :
    alone cfg board call (statements + 1) =
      alone cfg ((call.next cfg board .works).1.execute board) (call.next cfg board .works).2
        statements := by
  unfold alone
  rw [List.replicate_succ, run_cons]
  -- There is no other transaction to wait for.
  have free : (loading cfg).Free ((loading cfg).needs ((loading cfg).next board .works call).1)
    (List.eraseIdx [call] 0) := fun _ member => by cases member
  have steps : (loading cfg).step ⟨board, [call]⟩ (.run 0 .works) =
      ⟨(call.next cfg board .works).1.execute board, [(call.next cfg board .works).2]⟩ := by
    simp only [CallSystem.step, List.getElem?_cons_zero, if_pos free]
    rfl
  rw [steps]

/-- So does one of `assignOrderBundle`. -/
theorem alone_assign (call : AssignCall) (statements : Nat) :
    alone cfg board (.assign call) (statements + 1) =
      alone cfg ((call.next cfg board).1.execute board) (.assign (call.next cfg board).2)
        statements := by
  -- The first of the statements that are left is the call's own.
  rw [alone_succ]
  rfl

/-- So does one of `reassignOrder`. -/
theorem alone_reassign (call : ReassignCall) (statements : Nat) :
    alone cfg board (.reassign call) (statements + 1) =
      alone cfg ((call.next cfg board).1.execute board) (.reassign (call.next cfg board).2)
        statements := by
  -- The first of the statements that are left is the call's own.
  rw [alone_succ]
  rfl

/-- A transaction that is over changes nothing. -/
theorem alone_done (call : LoadingCall) (ended : ∀ board, call.next cfg board .works = (.unseen, call))
    (statements : Nat) : (alone cfg board call statements).shared = board := by
  -- Each further statement finds the transaction where it was.
  induction statements with
  | zero => rfl
  | succ statements ih =>
    rw [alone_succ, ended]
    exact ih

/-- Alone, the statements of an assignment commit what `assignOrderBundle` writes at once. -/
theorem assignOrderBundle_alone {asked : Bundle}
    (done : assignOrderBundle cfg board asked.requester asked.orderIds asked.driverName = .ok later) :
    (alone cfg board (LoadingEntry.assignOrderBundle asked).start 9).shared = later := by
  obtain ⟨allowed, asks, named, driver, found, vehicle, theirs, papers, unheld, all, pinned, within, same⟩ :=
    assignOrderBundle_accepted.mp done
  have fits : checkCapacity vehicle (board.currentLoad vehicle.id none)
      (totalWeight (board.pendingAmong asked.orderIds)) = .ok () := checkCapacity_ok.mpr within
  have starts : (LoadingEntry.assignOrderBundle asked).start = .assign (.selectDriver asked) := by
    simp only [LoadingEntry.start, allow, allowed, asks, named, require, Bind.bind, Except.bind,
      if_true, decide_true, ne_eq, not_false_eq_true]
  -- Each statement finds what the check it stands for has found.
  rw [starts, alone_assign, AssignCall.next, found]
  simp only [LoadingStatement.execute]
  rw [alone_assign, AssignCall.next, theirs]
  simp only [LoadingStatement.execute]
  rw [alone_assign, AssignCall.next, if_pos papers]
  simp only [LoadingStatement.execute]
  rw [alone_assign, AssignCall.next, unheld]
  simp only [LoadingStatement.execute]
  rw [alone_assign, AssignCall.next, AssignCall.locked, if_neg (not_not.mpr all), if_pos pinned]
  simp only [LoadingStatement.execute]
  split
  · -- Where the vehicle has no limit, the load is not read.
    rw [alone_assign, alone_assign, alone_assign]
    exact (alone_done _ (fun _ => rfl) _).trans same
  · rw [alone_assign, AssignCall.next, fits]
    simp only [LoadingStatement.execute]
    rw [alone_assign, alone_assign, alone_assign]
    exact (alone_done _ (fun _ => rfl) _).trans same

/-- Alone, the statements of a reassignment commit what `reassignOrder` writes at once. -/
theorem reassignOrder_alone {asked : Reassignment}
    (done : reassignOrder cfg board asked.requester asked.id asked.driverName = .ok later) :
    (alone cfg board (LoadingEntry.reassignOrder asked).start 8).shared = later := by
  -- Every check of the handler is a statement here, or stands behind one.
  obtain ⟨allowed, order, there, placed, was, named⟩ := reassignOrder_accepted.mp done
  have starts : (LoadingEntry.reassignOrder asked).start = .reassign (.lockOrder asked) := by
    simp only [LoadingEntry.start, allow, allowed, require, if_true]
  rw [starts, alone_reassign, ReassignCall.next, there]
  simp only [LoadingStatement.execute]
  rw [ReassignCall.locked, placed, if_neg (by simp), if_neg (not_not.mpr was)]
  -- Without a name the order is put back in the pool; with one it changes drivers.
  rcases named with ⟨unnamed, same⟩ | ⟨named, another, driver, found, vehicle, theirs, papers, within, same⟩
  · have unnamed : asked.nextDriver = "" := unnamed
    rw [if_pos unnamed, alone_reassign, alone_reassign, alone_reassign]
    exact (alone_done _ (fun _ => rfl) _).trans same
  · have named : ¬ asked.nextDriver = "" := named
    have fits : checkCapacity vehicle (board.currentLoad vehicle.id (some asked.id)) order.weightKg = .ok () :=
      checkCapacity_ok.mpr within
    have other : ¬ sameName cfg order.assignedTo asked.nextDriver = true := by
      unfold Reassignment.nextDriver
      simpa using another
    rw [if_neg named, if_neg other, alone_reassign, ReassignCall.next,
      show board.registeredDriver asked.nextDriver = some driver from found]
    simp only [LoadingStatement.execute]
    rw [alone_reassign, ReassignCall.next, theirs]
    simp only [LoadingStatement.execute]
    rw [alone_reassign, ReassignCall.next,
      if_pos (show isDriverVerified board asked.nextDriver = true from papers)]
    simp only [LoadingStatement.execute]
    split
    · rw [alone_reassign, alone_reassign, alone_reassign]
      exact (alone_done _ (fun _ => rfl) _).trans same
    · rw [alone_reassign, ReassignCall.next, fits]
      simp only [LoadingStatement.execute]
      rw [alone_reassign, alone_reassign, alone_reassign]
      exact (alone_done _ (fun _ => rfl) _).trans same

end Alone

end Freight.Dispatch
