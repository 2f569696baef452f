import Freight.Dispatch.ByProof
import Freight.Dispatch.Prices
import Freight.Dispatch.TripRuns

/-! Whether the charge for an empty run home is given back where the run home was filled, and nowhere else. -/

namespace Freight.Dispatch

variable {cfg : DispatchConfig} {board later : Board} {id : Nat} {order : DispatchOrder}

/-- What can happen to orders and their runs. -/
inductive FleetEvent where
  | dispatch (event : DispatchEvent)
  | optimiseTrip (requester : Requester) (tripId : Nat)
  | reorderTrip (requester : Requester) (tripId : Nat) (stopIds : List Nat)
  | forceOrderStatus (requester : Requester) (id : Nat) (status : Option OrderStatus) (reason : String)

/-- One such event. -/
def fleetStep (cfg : DispatchConfig) (board : Board) : FleetEvent → Board
  | .dispatch event => step cfg board event
  | .optimiseTrip requester tripId => committed board (optimiseTrip cfg board requester tripId)
  | .reorderTrip requester tripId stopIds => committed board (reorderTrip board requester tripId stopIds)
  -- What is refused by force changes nothing.
  | .forceOrderStatus requester id status reason =>
    match forceOrderStatus board requester id status reason with
    | .ok written => written
    | .error _ => board

/-- The quote such an event takes, and for which order. -/
def FleetEvent.quoteTaken (board : Board) : FleetEvent → Option (Nat × Quote)
  | .dispatch event => Dispatch.quoteTaken board event
  | _ => none

/-- A stop close enough to where an order was dropped to fill the run home. -/
def DispatchOrder.near (cfg : DispatchConfig) (order : DispatchOrder) (stop : TripStop) : Prop :=
  ∃ place dropped, stop.place = some place ∧ order.delivery = some dropped ∧
    cfg.kmApart place dropped ≤ backfillRadiusKm

/-- The run home was filled: behind an order's drop, another order was collected near it on the same run. -/
structure FillsReturn (cfg : DispatchConfig) (board : Board) (order : DispatchOrder)
    (drop pickup : TripStop) : Prop where
  dropped : drop ∈ board.stops.rows ∧ drop.kind = .drop ∧ drop.orderId = order.id
  collected : pickup ∈ board.stops.rows ∧ pickup.kind = .pickup ∧ pickup.orderId ≠ order.id
  run : pickup.tripId = drop.tripId
  near : order.near cfg pickup
  done : pickup.status = .done
  behind : drop.sequence < pickup.sequence

/-- Some order was collected so that it filled the run home. -/
def Board.FilledBy (cfg : DispatchConfig) (board : Board) (order : DispatchOrder) (filler : Nat) : Prop :=
  ∃ drop pickup, FillsReturn cfg board order drop pickup ∧ pickup.orderId = filler

/-- What a confirmation records for the run home: the credit, and the order that is taken to have filled it. -/
def DispatchOrder.credit (cfg : DispatchConfig) (board : Board) (order : DispatchOrder) :
    Option Order.Backfill :=
  order.toOrder.backfillCreditForOrder (board.returnLoad cfg order)

/-- It is what the columns hold afterwards, where anything is recorded. -/
theorem confirmed_credit (cfg : DispatchConfig) (board : Board) (order : DispatchOrder) :
    (order.confirmed cfg board).backfillCredit =
        ((order.credit cfg board).map Order.Backfill.creditAmount).or order.backfillCredit ∧
      (order.confirmed cfg board).backfilledByOrderId =
        ((order.credit cfg board).map Order.Backfill.filledByOrderId).or order.backfilledByOrderId :=
  ⟨rfl, rfl⟩

/-- The checks of `confirmDelivery`, on the order as it is. -/
structure Confirmable (cfg : DispatchConfig) (board : Board) (requester : Requester)
    (order : DispatchOrder) (proof : DeliveryProof) : Prop where
  proven : ∃ method, proofMethod cfg board order.id proof = .ok method
  arrived : order.status = .arrived
  allowed : requester.role = .driver → sameName cfg order.assignedTo requester.username = true

/-- The drop that is looked at for an order: the first on a run that has set out. -/
def Board.dropRead (board : Board) (order : DispatchOrder) : Option TripStop :=
  board.stops.rows.find? fun stop =>
    stop.orderId = order.id && stop.kind = .drop && board.underway stop

/-- How far from where it was dropped another order was to be collected. -/
def TripStop.kmFrom (cfg : DispatchConfig) (stop : TripStop) (dropped : Point) : Option ℚ :=
  stop.place.map fun place => cfg.kmApart place dropped

/-- The pickups of others on the drop's run that are near, the nearest first. -/
def Board.pickupsNear (cfg : DispatchConfig) (board : Board) (order : DispatchOrder) (dropped : Point)
    (drop : TripStop) : List TripStop :=
  (board.stops.rows.filter fun stop =>
    stop.tripId = drop.tripId && stop.kind = .pickup && stop.orderId ≠ order.id &&
      (stop.kmFrom cfg dropped).any (· ≤ backfillRadiusKm)).insertionSort
    fun one other => (one.kmFrom cfg dropped).getD 0 ≤ (other.kmFrom cfg dropped).getD 0

/-- Two stops that are taken to have filled a run home: the drop that is looked at, and the pickup nearest to it. -/
structure Board.Pairs (cfg : DispatchConfig) (board : Board) (order : DispatchOrder)
    (drop pickup : TripStop) : Prop where
  read : board.dropRead order = some drop
  nearest : ∃ dropped, order.delivery = some dropped ∧
    (board.pickupsNear cfg order dropped drop).head? = some pickup

/-- The two stops are on one run, and the pickup is another order's, near where the drop's was dropped. -/
theorem Board.Pairs.near {drop pickup : TripStop} (pairs : board.Pairs cfg order drop pickup) :
    (drop ∈ board.stops.rows ∧ drop.kind = .drop ∧ drop.orderId = order.id) ∧
      (pickup ∈ board.stops.rows ∧ pickup.kind = .pickup ∧ pickup.orderId ≠ order.id) ∧
      pickup.tripId = drop.tripId ∧ order.near cfg pickup := by
  obtain ⟨read, dropped, there, nearest⟩ := pairs
  have own := List.find?_some read
  have member := List.mem_of_mem_head? nearest
  -- The nearest of the pickups is one of those the query selects.
  rw [Board.pickupsNear, (List.perm_insertionSort _ _).mem_iff, List.mem_filter] at member
  simp only [Bool.and_eq_true, decide_eq_true_eq, Option.any_eq_true_iff_get] at own member
  obtain ⟨listed, ⟨⟨run, collects⟩, other⟩, placed, close⟩ := member
  refine ⟨⟨List.mem_of_find?_eq_some read, own.1.2, own.1.1⟩, ⟨listed, collects, other⟩, run, ?_⟩
  -- A pickup that is placed has a point, and the distance was measured from there.
  obtain ⟨place, is_place⟩ := Option.isSome_iff_exists.mp placed
  obtain ⟨point, at_point, rfl⟩ := Option.map_eq_some_iff.mp is_place
  exact ⟨point, dropped, at_point, there, by simpa [TripStop.kmFrom, at_point] using close⟩

/-- So the run home was filled where that pickup is done, and behind the drop. -/
theorem Board.Pairs.filled {drop pickup : TripStop} (pairs : board.Pairs cfg order drop pickup)
    (done : pickup.status = .done) (behind : drop.sequence < pickup.sequence) :
    board.FilledBy cfg order pickup.orderId :=
  ⟨drop, pickup, ⟨pairs.near.1, pairs.near.2.1, pairs.near.2.2.1, pairs.near.2.2.2, done, behind⟩, rfl⟩

/-- A confirmation is accepted exactly where its checks pass. -/
theorem confirmDelivery_ok_iff {requester : Requester} {proof : DeliveryProof}
    (found : board.order id = some order) :
    (∃ later, confirmDelivery cfg board requester id proof = .ok later) ↔
      Confirmable cfg board requester order proof := by
  have own : order.id = id := (Table.find?_eq_some.mp found).2
  simp only [confirmDelivery_accepted, found, Option.some.injEq,
    exists_eq_left', Bool.or_eq_true, decide_eq_true_eq, ne_eq]
  -- The statement asks a driver for their own order, where the code asks anybody for not being one.
  constructor
  · rintro ⟨later, method, proven, was, allowed, -⟩
    exact ⟨⟨method, own ▸ proven⟩, List.mem_singleton.mp (List.contains_iff_mem.mp was),
      fun driver => allowed.resolve_left fun not_one => not_one driver⟩
  · rintro ⟨⟨method, proven⟩, arrived, allowed⟩
    refine ⟨_, method, own ▸ proven, by rw [arrived]; rfl, ?_, rfl⟩
    exact or_iff_not_imp_left.mpr fun driver => allowed (not_not.mp driver)

section Stored

end Stored

section Step

variable {quoted : Quoted} {event : FleetEvent}

end Step

end Freight.Dispatch
