import Freight.Dispatch.System
import Freight.Payment.Effects

/-! Dispatch and the payment services at work on the same orders, a statement at a time. -/

namespace Freight.Dispatch

open Payment (Answer PaymentCall PaymentEntry Statement)

/-- The board, and the books the payment services keep. -/
structure Office where
  board : Board
  /-- The orders and the clock are the board's: what stands here under their names is not read. -/
  books : Payment.Store

/-- What the payment services see. -/
def Office.store (office : Office) : Payment.Store :=
  { office.books with orders := office.board.store.orders, now := office.board.now }

/-- What a statement of the payment services makes of a row dispatch shares with them. -/
def DispatchOrder.written (order : DispatchOrder) (now : Nat) (statement : Statement) : DispatchOrder :=
  { order with toOrder := statement.onOrder now order.toOrder }

/-- It is the same order still. -/
theorem DispatchOrder.written_id (order : DispatchOrder) (now : Nat) (statement : Statement) :
    (order.written now statement).id = order.id :=
  Payment.onOrder_id statement now order.toOrder

/-- What a statement of the payment services does. -/
def Office.executed (statement : Statement) (office : Office) : Office where
  board := { office.board with
    orders := office.board.orders.updateWhere (fun _ => true)
      (fun order => order.written office.board.now statement)
      fun order => order.written_id office.board.now statement }
  books := statement.execute office.store

/-- The payment services see their own statements as they would with the orders to themselves. -/
theorem Office.executed_store (office : Office) (statement : Statement) :
    (office.executed statement).store = statement.execute office.store := by
  -- The order of the two changes of view does not matter: rows are written one by one.
  have rows : (office.executed statement).board.store.orders =
      (statement.execute office.store).orders := by
    simp only [Office.executed, Board.store, Table.updateWhere, Statement.execute, Office.store,
      List.map_map]
    rfl
  unfold Office.store at rows ⊢
  rw [rows]
  rfl

/-- On the board each order is as the statement leaves its row. -/
theorem Office.executed_order (office : Office) (statement : Statement) (id : Nat) :
    (office.executed statement).board.order id =
      (office.board.order id).map fun order => order.written office.board.now statement := by
  -- A statement is an UPDATE of every row, most of which it leaves alone.
  unfold Board.order Office.executed
  simp only [Table.find?_updateWhere, if_true]

/-- What happens around the payment services: the trip controller, a reassignment, MTN, and the clock. -/
inductive OfficeEvent where
  | createTrip (requester : Requester) (orderIds : List Nat) (driverUsername : Option String)
      (vehicleId : Option Nat)
  | updateTrip (requester : Requester) (tripId : Nat) (driverUsername : Option (Option String))
      (vehicleId : Option Nat) (status : Option TripStatus)
  | updateStop (requester : Requester) (stopId : Nat) (status : Option StopStatus)
      (failureReason : Option String)
  | reassignOrder (requester : Requester) (id : Nat) (driverName : Option String)
  /-- Somebody enters their PIN, and MTN moves the money. -/
  | settle (reference : Nat) (amount : ℚ) (currency : Text)
  /-- A prompt is refused, or lapses. -/
  | decline (reference : Nat)
  /-- Accounts, vehicles and papers change, and time passes. -/
  | elsewhere (users : Table User fun user => user.username)
      (vehicles : Table FleetVehicle fun vehicle => vehicle.id)
      (driverDocuments : List (Document String)) (vehicleDocuments : List (Document Nat))
      (elapsed : Nat)

/-- What it does to the board. -/
def OfficeEvent.onBoard (cfg : DispatchConfig) (board : Board) : OfficeEvent → Board
  | .createTrip requester orderIds driverUsername vehicleId =>
    step cfg board (.createTrip requester orderIds driverUsername vehicleId)
  | .updateTrip requester tripId driverUsername vehicleId status =>
    step cfg board (.updateTrip requester tripId driverUsername vehicleId status)
  | .updateStop requester stopId status failureReason =>
    step cfg board (.updateStop requester stopId status failureReason)
  | .reassignOrder requester id driverName => step cfg board (.reassignOrder requester id driverName)
  -- What moves money leaves the board alone.
  | .settle _ _ _ | .decline _ => board
  | .elsewhere users vehicles driverDocuments vehicleDocuments elapsed =>
    step cfg board (.elsewhere users vehicles driverDocuments vehicleDocuments elapsed)

/-- What it does to the books. -/
def OfficeEvent.onBooks (books : Payment.Store) : OfficeEvent → Payment.Store
  | .settle reference amount currency =>
    (Payment.PaymentOutside.settle reference amount currency).happen books
  | .decline reference => (Payment.PaymentOutside.decline reference).happen books
  | .createTrip .. | .updateTrip .. | .updateStop .. | .reassignOrder .. | .elsewhere .. => books

/--
Dispatch and the payment services over one office.

The handlers of dispatch are one transaction each. What they would wait for is left out: a lock can
only take interleavings away.
-/
def officeSystem (cfg : DispatchConfig) :
    CallSystem Office Statement PaymentEntry PaymentCall Answer OfficeEvent Payment.Lock where
  start := PaymentEntry.start
  next := fun office answer call => call.next cfg.services office.store answer
  execute := Office.executed
  -- The locks are those of the payment services.
  holds := PaymentCall.holds
  needs := Statement.needs
  outside := fun event office =>
    { board := event.onBoard cfg office.board, books := event.onBooks office.books }
  outsideNeeds := fun _ => []
  stopped := .stopped

/-- An office, and the calls of the payment services in flight over it. -/
abbrev OfficePool := Pool Office PaymentCall

/-- What can happen next: a call, one statement of a call, a crash, or something outside. -/
abbrev OfficePoolEvent := PoolEvent PaymentEntry Answer OfficeEvent

/-- The statement an event is about to run. -/
def statementOf (cfg : DispatchConfig) (pool : OfficePool) : OfficePoolEvent → Option Statement
  | .run index answer =>
    (pool.calls[index]?).map fun call => (call.next cfg.services pool.shared.store answer).1
  | .call _ | .stop _ | .outside _ => none

/-- What happens outside the payment services waits for nobody. -/
theorem officeStep_outside (cfg : DispatchConfig) (pool : OfficePool) (event : OfficeEvent) :
    (officeSystem cfg).step pool (.outside event) =
      { pool with shared := {
          board := event.onBoard cfg pool.shared.board, books := event.onBooks pool.shared.books } } := by
  -- It needs no lock, so it happens at once.
  have free : (officeSystem cfg).Free ((officeSystem cfg).outsideNeeds event) pool.calls :=
    fun _ _ _ needed => absurd needed List.not_mem_nil
  simp only [CallSystem.step, if_pos free]
  rfl

/-- Any other event does what the statement it runs does, or nothing. -/
theorem officeStep_inside {cfg : DispatchConfig} {pool : OfficePool} {event : OfficePoolEvent}
    (inside : ∀ outside, event ≠ .outside outside) :
    ((officeSystem cfg).step pool event).shared = pool.shared ∨
      ∃ statement, statementOf cfg pool event = some statement ∧
        ((officeSystem cfg).step pool event).shared = pool.shared.executed statement := by
  -- Only a call that runs writes anything, and it writes by its statement.
  cases event with
  | call entry => exact .inl rfl
  | stop index => exact .inl rfl
  | outside outside => exact absurd rfl (inside outside)
  | run index answer =>
    rcases @CallSystem.step_run_cases _ _ _ _ _ _ _ (officeSystem cfg) _ pool index answer with
      same | ⟨call, others, taken, shared, -⟩
    · exact .inl (congrArg Pool.shared same)
    · refine .inr ⟨_, ?_, shared⟩
      simp only [statementOf, taken.found, Option.map_some]
      rfl

end Freight.Dispatch
