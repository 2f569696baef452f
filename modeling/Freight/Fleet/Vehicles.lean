import Freight.Dispatch.Changes
import Freight.Library.Pool

/-! The vehicles of the fleet: registered, handed to drivers, and deleted a statement at a time. -/

namespace Freight.Fleet

open Dispatch

/-- What happens to the board besides the deletion of vehicles, one transaction after another. -/
inductive FleetEvent where
  /-- Anything dispatch does. The vehicles are left to the endpoints below. -/
  | dispatch (event : DispatchEvent)
  | forceOrderStatus (requester : Requester) (id : Nat) (status : Option OrderStatus) (reason : String)
  | createVehicle (name type : String) (maxWeight maxRangeKm : Option ℚ)
  /-- With no driver, the vehicle is handed back. -/
  | assignVehicle (vehicleId : Nat) (driverId : Option Nat)
  /-- The driver who is invited may be given a vehicle with the invitation. -/
  | inviteDriver (driverId : Nat) (vehicleId : Option Nat)

/-- A limit is left out, or positive. -/
def positive (limit : Option ℚ) : Bool := limit.all fun value => 0 < value

/-- `createVehicle`. -/
def createVehicle (board : Board) (name type : String) (maxWeight maxRangeKm : Option ℚ) : Board :=
  if name = "" ∨ type = "" then board
  else if positive maxWeight && positive maxRangeKm then
    { board with vehicles := board.vehicles.insert (fun id => { id := id, maxWeightKg := maxWeight }) fun _ => rfl }
  else board

/-- A driver the foreign key of `current_driver_id` accepts. -/
def Board.knowsUser (board : Board) (driverId : Nat) : Bool := board.users.rows.any fun user => user.id = driverId

/-- `assignVehicle`: one statement, whoever held the vehicle before. -/
def assignVehicle (board : Board) (vehicleId : Nat) (driverId : Option Nat) : Board :=
  if driverId.all (Board.knowsUser board) then
    { board with
      vehicles := board.vehicles.update vehicleId
        (fun vehicle => { vehicle with currentDriverId := driverId }) fun _ => rfl }
  else board

/-- `inviteDriver`, as far as the vehicle: it is given only while nobody holds it. -/
def inviteDriver (board : Board) (driverId : Nat) (vehicleId : Option Nat) : Board :=
  match vehicleId with
  | none => board
  | some vehicleId =>
    { board with
      vehicles := board.vehicles.updateWhere
        -- The condition is in the UPDATE itself.
        (fun vehicle => vehicle.id = vehicleId && vehicle.currentDriverId.isNone)
        (fun vehicle => { vehicle with currentDriverId := some driverId }) fun _ => rfl }

/-- One such event. -/
def FleetEvent.happens (cfg : DispatchConfig) : FleetEvent → Board → Board
  -- Dispatch does not write vehicles.
  | .dispatch event, board => { step cfg board event with vehicles := board.vehicles }
  | .forceOrderStatus requester id status reason, board =>
    match Dispatch.forceOrderStatus board requester id status reason with
    | .ok written => written
    | .error _ => board
  | .createVehicle name type maxWeight maxRangeKm, board => Fleet.createVehicle board name type maxWeight maxRangeKm
  | .assignVehicle vehicleId driverId, board => Fleet.assignVehicle board vehicleId driverId
  | .inviteDriver driverId vehicleId, board => Fleet.inviteDriver board driverId vehicleId

/-- How a deletion is answered. -/
inductive DeletionAnswer where
  /-- `ADMIN_VEHICLE_NOT_FOUND`, with status 404. -/
  | notFound
  /-- `ADMIN_VEHICLE_STILL_ASSIGNED`, with status 409. -/
  | stillAssigned
  /-- `ADMIN_VEHICLE_HAS_ACTIVE_ORDERS`, with status 409. -/
  | hasActiveOrders
  /-- `ADMIN_VEHICLE_DELETE_FAILED`, with status 500. -/
  | failed
  | deleted
  deriving DecidableEq

/-- A call of `deleteVehicle`, at the statement it has reached. -/
inductive Deletion where
  /-- It is about to read the row of the vehicle. -/
  | finding (vehicleId : Nat)
  /-- Nobody held the vehicle, and it is about to count the orders aboard. -/
  | counting (vehicleId : Nat)
  /-- There were none, and it is about to delete the row. -/
  | deleting (vehicleId : Nat)
  | answered (answer : DeletionAnswer)
  | stopped
  deriving DecidableEq

/-- The statement a deletion runs. -/
inductive DeletionStatement where
  | unseen
  | deleteVehicle (vehicleId : Nat)

/-- The row goes, and what the foreign keys say of rows that name it: papers go with it, other rows forget it. -/
def Board.vehicleDeleted (board : Board) (vehicleId : Nat) : Board :=
  { board with
    vehicles := board.vehicles.deleteWhere fun vehicle => vehicle.id = vehicleId
    -- ON DELETE SET NULL, on orders and on runs.
    orders := board.orders.updateWhere (fun order => order.vehicleId = some vehicleId)
      (fun order => { order with vehicleId := none }) fun _ => rfl
    trips := board.trips.updateWhere (fun trip => trip.vehicleId = some vehicleId)
      (fun trip => { trip with vehicleId := none }) fun _ => rfl
    vehicleDocuments := board.vehicleDocuments.filter fun document => document.holder ≠ vehicleId }

/-- What a statement does to the board. -/
def DeletionStatement.execute (statement : DeletionStatement) (board : Board) : Board :=
  match statement with
  | .unseen => board
  | .deleteVehicle vehicleId => Board.vehicleDeleted board vehicleId

/-- `COUNT(*) … WHERE vehicle_id = … AND status NOT IN ('DELIVERED', 'CANCELLED')`. -/
def Board.activeOrders (board : Board) (vehicleId : Nat) : Nat :=
  board.orders.rows.countP fun order => order.vehicleId = some vehicleId && order.isOpen

/-- The statement a deletion is at, which may fail, and where the deletion stands once it has run. -/
def Deletion.next (board : Board) (works : Bool) : Deletion → DeletionStatement × Deletion
  | .finding vehicleId =>
    if works then
      match board.vehicles.find? vehicleId with
      | none => (.unseen, .answered .notFound)
      | some vehicle =>
        -- Somebody still holds it.
        if vehicle.currentDriverId.isSome then (.unseen, .answered .stillAssigned)
        else (.unseen, .counting vehicleId)
    else (.unseen, .answered .failed)
  | .counting vehicleId =>
    if works then
      -- What is on its way in it would lose its vehicle.
      if 0 < Board.activeOrders board vehicleId then (.unseen, .answered .hasActiveOrders)
      else (.unseen, .deleting vehicleId)
    else (.unseen, .answered .failed)
  | .deleting vehicleId =>
    if works then (.deleteVehicle vehicleId, .answered .deleted) else (.unseen, .answered .failed)
  | done => (.unseen, done)

/--
Deletions of vehicles among everything else. An assignment of orders locks the row of the vehicle from reading it
to its commit, so that a deletion comes before it or after it as a whole.
-/
def fleetSystem (cfg : DispatchConfig) : CallSystem Board DeletionStatement Nat Deletion Bool FleetEvent Unit where
  start := .finding
  next := Deletion.next
  execute := DeletionStatement.execute
  holds _ := []
  needs _ := []
  outside := FleetEvent.happens cfg
  outsideNeeds _ := []
  stopped := .stopped

/-- The vehicle a deletion is under way for: past its first check, and not yet answered. -/
def Deletion.target : Deletion → Option Nat
  | .counting vehicleId | .deleting vehicleId => some vehicleId
  | _ => none

end Freight.Fleet
