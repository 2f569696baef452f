import Freight.Store.Rows

/-! What an order is allowed to do next. -/

namespace Freight

/-- Statuses nothing leaves. -/
def terminalStatuses : List OrderStatus := [.delivered, .cancelled]

/-- `ALLOWED`: where an order may move from each status. -/
def allowedFrom : OrderStatus → List OrderStatus
  | .pending => [.offered, .assigned, .cancelled]
  -- Declining or expiring returns the job to the queue.
  | .offered => [.assigned, .pending, .cancelled]
  -- An assigned job may change hands, or go back to the queue.
  | .assigned => [.assigned, .atPickup, .pickedUp, .inTransit, .pending, .cancelled]
  | .atPickup => [.pickedUp, .inTransit, .cancelled]
  | .pickedUp => [.inTransit, .cancelled]
  | .inTransit => [.arrived, .cancelled]
  -- Delivery is earned by proof, never by a change of status.
  | .arrived => [.cancelled]
  | .delivered | .cancelled => []

/-- The one status a delivery may be confirmed from. -/
def deliverableFrom : List OrderStatus := [.arrived]

/-- Nothing moves the order any more. -/
def isTerminal (status : OrderStatus) : Bool := terminalStatuses.contains status

/-- The move is one an order may make. -/
def canTransition (source target : OrderStatus) : Bool :=
  if source = target ∧ source ≠ .assigned then false else (allowedFrom source).contains target

/-- Why a transition was refused. -/
inductive Refusal where
  /-- `ORDERS_STATUS_NEEDS_PROOF`. -/
  | needsProof
  /-- `ORDERS_STATUS_TERMINAL`. -/
  | terminal
  /-- `ORDERS_STATUS_OUT_OF_SEQUENCE`. -/
  | outOfSequence
  deriving DecidableEq

/-- The reason a refused move is given. -/
def refusalFor (source target : OrderStatus) : Refusal :=
  if target = .delivered then .needsProof
  else if isTerminal source then .terminal
  else .outOfSequence

/-- How far along its journey an order is. -/
def stage : OrderStatus → Nat
  | .pending | .offered | .assigned => 0
  | .atPickup => 1
  | .pickedUp => 2
  | .inTransit => 3
  | .arrived => 4
  | .delivered | .cancelled => 5

/-- No allowed move goes back along the journey. -/
theorem stage_le_of_canTransition {source target : OrderStatus}
    (allowed : canTransition source target = true) : stage source ≤ stage target := by
  -- The table is finite, so every move in it is looked at.
  cases source <;> cases target <;> first | decide | (revert allowed; decide)

/-- A status change never delivers an order. -/
theorem not_delivered_of_canTransition {source target : OrderStatus}
    (allowed : canTransition source target = true) : target ≠ .delivered := by
  -- Status by status, delivered is in no row of the table.
  rintro rfl
  cases source <;> (revert allowed; decide)

end Freight
