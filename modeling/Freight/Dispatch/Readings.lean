import Freight.Dispatch.History

/-! What is read off an order, and the requests that leave it as it was. -/

namespace Freight.Dispatch

variable {α : Type*} {read : DispatchOrder → α} {cfg : DispatchConfig} {board later : Board}
  {event : DispatchEvent} {id : Nat}

/-- The order an id names reads as it did, and is there exactly when it was. -/
def SameReading (read : DispatchOrder → α) (board later : Board) (id : Nat) : Prop :=
  (later.order id).map read = (board.order id).map read

/-- A reading that does not depend on where an order stands, nor on when an offer of it lapses. -/
def Unplaced (read : DispatchOrder → α) : Prop :=
  ∀ (order : DispatchOrder) status assignedTo vehicleId offerExpiresAt,
    read { order with
      status := status, assignedTo := assignedTo, vehicleId := vehicleId
      offerExpiresAt := offerExpiresAt } = read order

/-- Where no order is written, every reading is the same. -/
theorem sameReading_same (same : later.orders = board.orders) : SameReading read board later id := by
  -- The row is found in the same table.
  unfold SameReading Board.order
  rw [same]

/-- An UPDATE leaves a reading alone where what it writes does. -/
theorem sameReading_updateWhere {chosen : DispatchOrder → Bool} {change : DispatchOrder → DispatchOrder}
    (written : later.orders.rows = board.orders.rows.map fun order =>
      if chosen order then change order else order)
    (same : ∀ order, read (change order) = read order)
    (keeps : ∀ order : DispatchOrder, (change order).id = order.id) : SameReading read board later id := by
  -- Chosen or not, the row reads as it did.
  unfold SameReading
  rw [order_of_written written keeps id, Option.map_map]
  congr 1
  funext order
  simp only [Function.comp_apply]
  split
  · exact same order
  · rfl

/-- What is left of a refused request reads as it did. -/
theorem sameReading_committed {result : Except Failure Board}
    (same : ∀ written, result = .ok written → SameReading read board written id) :
    SameReading read board (committed board result) id := by
  -- A request that was refused has been rolled back.
  cases result with
  | ok written => exact same written rfl
  | error failure => exact sameReading_same rfl

/-- Handing orders to a run's driver changes only where they stand. -/
theorem sameReading_handedOver (unplaced : Unplaced read) {planned : Board}
    {chosen : DispatchOrder → Bool} {driver : Option String} (same : planned.orders = board.orders) :
    SameReading read board (planned.handedOver chosen driver) id := by
  -- Whom it is handed to, and in what status, is all that is written.
  cases named : Payment.present driver with
  | none =>
    unfold Board.handedOver
    rw [named]
    exact sameReading_same same
  | some name =>
    exact sameReading_updateWhere (handedOver_rows same named)
      (fun order => unplaced order _ _ order.vehicleId order.offerExpiresAt) fun _ => rfl

/-- The events that neither add an order nor write to more of one than where it stands. -/
def DispatchEvent.Standing : DispatchEvent → Prop
  | .createOrder .. | .publicCreateOrder .. | .placeOneOrder .. | .updateOrderStatus ..
  | .confirmDelivery .. | .updateStop .. | .payment .. => False
  | _ => True

/-- Such an event leaves every reading alone that does not depend on where an order stands. -/
theorem sameReading_step (unplaced : Unplaced read) (standing : event.Standing) :
    SameReading read board (step cfg board event) id := by
  -- Each event that is left writes the status, the driver, the vehicle or the offer of some orders.
  cases event with
  | createOrder | publicCreateOrder | placeOneOrder | updateOrderStatus | confirmDelivery | updateStop
  | payment => exact standing.elim
  | assignOrderBundle requester orderIds driverName =>
    refine sameReading_committed fun later done => ?_
    obtain ⟨-, -, -, driver, -, vehicle, -, -, -, -, -, -, rfl⟩ := assignOrderBundle_accepted.mp done
    exact sameReading_updateWhere rfl (fun order => unplaced order _ _ _ order.offerExpiresAt) fun _ => rfl
  -- Back in the pool or with another driver, only the columns of a placement change.
  | reassignOrder requester target driverName =>
    refine sameReading_committed fun later done => ?_
    obtain ⟨-, order, -, -, -, ⟨-, rfl⟩ | ⟨-, -, driver, -, vehicle, -, -, -, rfl⟩⟩ :=
      reassignOrder_accepted.mp done
    · exact sameReading_updateWhere rfl (fun order => unplaced order _ _ _ order.offerExpiresAt)
        fun _ => rfl
    · exact sameReading_updateWhere rfl
        (fun order => unplaced order order.status _ _ order.offerExpiresAt) fun _ => rfl
  | offerOrders requester orderIds driverName minutes =>
    refine sameReading_committed fun later done => ?_
    obtain ⟨-, -, driver, -, -, -, -, rfl⟩ := offerOrders_accepted.mp done
    exact sameReading_updateWhere rfl (fun order => unplaced order _ _ order.vehicleId _) fun _ => rfl
  | acceptOffer requester target =>
    refine sameReading_committed fun later done => ?_
    obtain ⟨-, order, -, -, rfl⟩ := acceptOffer_accepted.mp done
    exact sameReading_updateWhere rfl
      (fun order => unplaced order _ order.assignedTo order.vehicleId _) fun _ => rfl
  | declineOffer requester target reason =>
    refine sameReading_committed fun later done => ?_
    obtain ⟨-, order, -, -, rfl⟩ := declineOffer_accepted.mp done
    exact sameReading_updateWhere rfl (fun order => unplaced order _ _ order.vehicleId _) fun _ => rfl
  | expireJobOffers =>
    exact sameReading_updateWhere rfl (fun order => unplaced order _ _ order.vehicleId _) fun _ => rfl
  | createTrip requester orderIds driver vehicle =>
    refine sameReading_committed fun later done => ?_
    obtain ⟨-, -, -, -, -, -, -, -, rfl⟩ := createTrip_accepted.mp done
    exact sameReading_handedOver unplaced rfl
  -- A run hands its orders on to its driver.
  | updateTrip requester tripId driver vehicle status =>
    refine sameReading_committed fun later done => ?_
    obtain ⟨-, -, trip, -, -, -, -, -, rfl⟩ := updateTrip_accepted.mp done
    exact sameReading_handedOver unplaced rfl
  | reportIncident driver orderId => exact sameReading_same rfl
  | elsewhere users vehicles driverDocuments vehicleDocuments elapsed => exact sameReading_same rfl

end Freight.Dispatch
