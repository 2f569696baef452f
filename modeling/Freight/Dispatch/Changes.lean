import Freight.Dispatch.System

/-! What one event does to where an order stands, and what every event leaves alone. -/

namespace Freight.Dispatch

variable {cfg : DispatchConfig} {board later : Board} {event : DispatchEvent} {id : Nat}

/-- An event brings the order from where it stands to where one change takes it; a new order waits. -/
structure Follows (cfg : DispatchConfig) (board : Board) (event : DispatchEvent) (later : Board)
    (id : Nat) : Prop where
  /-- An order is never lost, and takes one change at most. -/
  changes : ∀ order, board.order id = some order →
    ∃ next, later.order id = some next ∧ Change cfg board id event order.standing next.standing
  /-- An order that was not there before waits for a driver. -/
  waits : board.order id = none → ∀ next, later.order id = some next → next.standing = .waiting
  /-- A confirmation is never lost. -/
  confirmations : board.confirmations ⊆ later.confirmations

/-- An event that writes no order leaves every order where it stands. -/
theorem follows_same (same : later.orders = board.orders)
    (proofs : board.confirmations ⊆ later.confirmations) : Follows cfg board event later id := by
  -- The same table is searched before and after.
  have found : later.order id = board.order id := by
    unfold Board.order
    rw [same]
  refine ⟨fun order before => ⟨order, found.trans before, .kept _⟩, fun absent next after => ?_, proofs⟩
  rw [found, absent] at after
  cases after

/-- An UPDATE changes the rows it chooses, and nothing else. -/
theorem follows_updateWhere {chosen : DispatchOrder → Bool} {change : DispatchOrder → DispatchOrder}
    {keeps : ∀ order : DispatchOrder, (change order).id = order.id}
    (same : later.orders = board.orders.updateWhere chosen change keeps)
    (proofs : board.confirmations ⊆ later.confirmations)
    (changes : ∀ order, board.order id = some order → chosen order = true →
      Change cfg board id event order.standing (change order).standing) :
    Follows cfg board event later id := by
  -- What is found afterwards is the row found before, changed where it is chosen.
  have found : later.order id =
      (board.order id).map fun order => if chosen order then change order else order := by
    unfold Board.order
    rw [same]
    exact Table.find?_updateWhere _ _ _ keeps _
  refine ⟨?_, ?_, proofs⟩
  · intro order before
    rw [before, Option.map_some] at found
    by_cases picked : chosen order = true
    · rw [if_pos picked] at found
      exact ⟨_, found, changes order before picked⟩
    · rw [if_neg picked] at found
      exact ⟨_, found, .kept _⟩
  · intro absent next after
    rw [found, absent] at after
    cases after

/-- A change to one order is seen on that order. -/
theorem follows_changeOrder {target : Nat} {change : DispatchOrder → DispatchOrder}
    {keeps : ∀ order : DispatchOrder, (change order).id = order.id}
    (same : later.orders = (board.changeOrder target change keeps).orders)
    (proofs : board.confirmations ⊆ later.confirmations)
    (changes : ∀ order, board.order id = some order → id = target →
      Change cfg board id event order.standing (change order).standing) :
    Follows cfg board event later id := by
  apply follows_updateWhere (show _ = board.orders.updateWhere _ change keeps from same) proofs
  intro order before picked
  -- The row that was found under the key is the row the UPDATE picks by it.
  have own := (Table.find?_eq_some.mp before).2
  exact changes order before (own.symm.trans (of_decide_eq_true picked))

/-- Where the order that is changed has been found, its own move is all there is to see. -/
theorem follows_found {target : Nat} {order : DispatchOrder} {change : DispatchOrder → DispatchOrder}
    {keeps : ∀ order : DispatchOrder, (change order).id = order.id}
    (found : board.order target = some order)
    (same : later.orders = (board.changeOrder target change keeps).orders)
    (proofs : board.confirmations ⊆ later.confirmations)
    (moves : Change cfg board target event order.standing (change order).standing) :
    Follows cfg board event later id := by
  apply follows_changeOrder same proofs
  rintro other before rfl
  -- One row is found under an id, so it is the row that moves.
  obtain rfl := Option.some.inj (before.symm.trans found)
  exact moves

/-- An INSERT adds an order that waits. -/
theorem follows_insert (row : Nat → DispatchOrder) (own : ∀ serial, (row serial).id = serial)
    (same : later.orders = board.orders.insert row own)
    (proofs : board.confirmations ⊆ later.confirmations)
    (waits : (row board.orders.nextSerial).standing = .waiting) :
    Follows cfg board event later id := by
  refine ⟨?_, ?_, proofs⟩
  · intro order before
    refine ⟨order, ?_, .kept _⟩
    unfold Board.order
    -- The rows that were there are found as before.
    rw [same]
    exact Table.find?_insert_of_some before
  · intro absent next after
    unfold Board.order at after absent
    rw [same] at after
    -- Only the new row can be found where there was none.
    rcases Table.find?_insert_cases after with old | ⟨-, rfl⟩
    · rw [absent] at old
      cases old
    · exact waits

/-- The orders a locking SELECT returns in full are all waiting for a driver. -/
theorem pending_of_pendingAmong {ids : List Nat}
    (all : (board.pendingAmong ids).length = ids.length) {order : DispatchOrder}
    (found : board.order id = some order) (asked : ids.contains order.id = true) :
    order.status = .pending := by
  -- The SELECT asks for pending rows, and found as many as were named.
  have listed := Table.find?_eq_some.mp found
  exact of_decide_eq_true (board.orders.passes_of_length all listed.1 (List.contains_iff_mem.mp asked))

/-- The status update that a payment or an expired wait cannot stop leaves the other columns alone. -/
theorem standing_statusUpdated {order : DispatchOrder} {status : OrderStatus} (code : String)
    (allowed : order.toOrder.movesTo status = true) :
    (order.statusUpdated cfg board status code).standing = { order.standing with status := status } := by
  -- The wait at the pickup and the delivery code are written to columns of their own.
  have moved : ∀ waited, ((order.toOrder.statusUpdated cfg.rateOf status waited).status = status ∧
      (order.toOrder.statusUpdated cfg.rateOf status waited).assignedTo = order.assignedTo) := by
    intro waited
    unfold Order.statusUpdated
    rw [if_pos allowed]
    simp only
    split
    · unfold Order.leftPickup
      split <;> exact ⟨rfl, rfl⟩
    · exact ⟨rfl, rfl⟩
  obtain ⟨status_eq, assigned_eq⟩ := moved (board.waitedSince order.id .atPickup)
  unfold DispatchOrder.statusUpdated
  split
  · simp only [DispatchOrder.codeIssued]
    split <;> simp [DispatchOrder.standing, status_eq, assigned_eq]
  · simp [DispatchOrder.standing, status_eq, assigned_eq]

/-- What the checks of a status update establish. -/
theorem statusChange_ok {requester : Requester} {asked : Option OrderStatus} {order : DispatchOrder}
    {status : OrderStatus} (passes : statusChange cfg board requester id asked = .ok (order, status)) :
    asked = some status ∧ board.order id = some order ∧ canTransition order.status status = true ∧
      order.toOrder.movesTo status = true := by
  -- The checks of the handler are those of the move, the unpaid one included.
  obtain ⟨rfl, -, there, -, allowed, unpaid⟩ := statusChange_accepted.mp passes
  exact ⟨rfl, there, allowed, by rw [Order.movesTo, allowed, unpaid]; rfl⟩

/-- Booking an order adds one that waits. -/
theorem createOrder_follows {requester : Requester} {request : NewOrder}
    (done : createOrder board requester request = .ok later) : Follows cfg board event later id := by
  -- Accepted, it is one INSERT.
  obtain ⟨-, -, -, priced, -, rfl⟩ := createOrder_accepted.mp done
  exact follows_insert (request.row priced) (fun _ => rfl) rfl (List.Subset.refl _) rfl

/-- A customer's booking adds an order that waits. -/
theorem publicCreateOrder_follows {request : NewBooking}
    (done : publicCreateOrder board request = .ok later) : Follows cfg board event later id := by
  -- Accepted, it is one INSERT.
  obtain ⟨-, priced, -, rfl⟩ := publicCreateOrder_accepted.mp done
  exact follows_insert (request.row priced) (fun _ => rfl) rfl (List.Subset.refl _) rfl

/-- Placing an order on the map leaves it where it stands. -/
theorem placeOneOrder_follows {requester : Requester} {target : Nat} {pickup delivery : Point}
    {pricing : Except PricingError Quote}
    (done : placeOneOrder board requester target pickup delivery pricing = .ok later) :
    Follows cfg board event later id := by
  obtain ⟨-, -, _, -, -, rfl⟩ := placeOneOrder_accepted.mp done
  apply follows_changeOrder
  · exact rfl
  · exact List.Subset.refl _
  · intro order _ _
    -- Repricing touches money columns only.
    have same : (order.toOrder.placed pricing).status = order.status ∧
        (order.toOrder.placed pricing).assignedTo = order.assignedTo := by
      unfold Order.placed
      split
      · exact ⟨rfl, rfl⟩
      · split <;> exact ⟨rfl, rfl⟩
    have stands : DispatchOrder.standing { order with
        toOrder := order.toOrder.placed pricing, pickup := some pickup, delivery := some delivery } =
        order.standing := by
      simp [DispatchOrder.standing, same]
    rw [stands]
    exact .kept _

/-- Assigning a bundle assigns orders that were waiting. -/
theorem assignOrderBundle_follows {requester : Requester} {orderIds : List Nat} {driverName : String}
    (done : assignOrderBundle cfg board requester orderIds driverName = .ok later) :
    Follows cfg board event later id := by
  -- The bundle's rows were locked in full, so each of them was waiting.
  obtain ⟨-, -, -, driver, -, vehicle, -, -, -, all, -, -, rfl⟩ := assignOrderBundle_accepted.mp done
  apply follows_updateWhere
  · exact rfl
  · exact List.Subset.refl _
  · intro order before asked
    exact .assigned _ _ _ (pending_of_pendingAmong all before asked)
  · exact fun _ => rfl

/-- Reassigning an order moves it between drivers, or sends it back to the queue. -/
theorem reassignOrder_follows {requester : Requester} {target : Nat} {driverName : Option String}
    (done : reassignOrder cfg board requester target driverName = .ok later) :
    Follows cfg board event later id := by
  obtain ⟨-, order, found, -, was, ⟨-, rfl⟩ | ⟨-, -, driver, -, vehicle, -, -, -, rfl⟩⟩ :=
    reassignOrder_accepted.mp done
  -- The order that was locked is the order that is written.
  · apply follows_found found
    · exact rfl
    · exact List.Subset.refl _
    · exact .unassigned _ was
    · exact fun _ => rfl
  · apply follows_found found
    · exact rfl
    · exact List.Subset.refl _
    · exact .reassigned _ _ _ was
    · exact fun _ => rfl

/-- A status update moves the order as its checks allow. -/
theorem updateOrderStatus_follows {requester : Requester} {target : Nat}
    {asked : Option OrderStatus} {code : String} {committedLater : Bool}
    (named : event = .updateOrderStatus requester target asked code committedLater)
    (done : updateOrderStatus cfg board requester target asked code = .ok later) :
    Follows cfg board event later id := by
  obtain ⟨order, status, passes, -, rfl⟩ := updateOrderStatus_accepted.mp done
  -- The check has named the order, its move and whom it is open to.
  obtain ⟨rfl, found, allowed, moves⟩ := statusChange_ok passes
  apply follows_found found
  · exact rfl
  · exact List.Subset.refl _
  · rw [standing_statusUpdated code moves]
    exact .updated _ _ _ _ _ _ allowed passes named
  · exact fun _ => statusUpdated_id ..

/-- A status update that passes its checks, and records no arrival, is made. -/
theorem updateOrderStatus_of_passes {requester : Requester} {asked : Option OrderStatus}
    {order : DispatchOrder} {status : OrderStatus} (code : String) (committedLater : Bool)
    (passes : statusChange cfg board requester id asked = .ok (order, status))
    (elsewhere : arrivalStatuses.contains status = false) :
    ∃ next, (step cfg board (.updateOrderStatus requester id asked code committedLater)).order id =
      some next ∧ next.standing = { order.standing with status := status } := by
  obtain ⟨-, found, -, moves⟩ := statusChange_ok passes
  refine ⟨order.statusUpdated cfg board status code, ?_, standing_statusUpdated code moves⟩
  -- The last check looks at arrivals only.
  have done : updateOrderStatus cfg board requester id asked code = .ok
      ((board.changeOrder id (fun order => order.statusUpdated cfg board status code)
        fun _ => statusUpdated_id ..).logged id order.status status requester.username) := by
    have may : mayRecord requester status = true := by
      rw [mayRecord, elsewhere]
      exact Bool.or_true _
    exact updateOrderStatus_accepted.mpr ⟨order, status, passes, may, rfl⟩
  simp only [step, done]
  refine (board.order_changeOrder id _ (fun _ => statusUpdated_id ..) id).trans ?_
  rw [if_pos rfl, found, Option.map_some]

/-- So does the UPDATE a refused request left uncommitted, when it is committed after all. -/
theorem afterRefusedStatus_follows {requester : Requester} {target : Nat}
    {asked : Option OrderStatus} {code : String} {committedLater : Bool}
    (named : event = .updateOrderStatus requester target asked code committedLater) :
    Follows cfg board event
      (afterRefusedStatus cfg board requester target asked committedLater) id := by
  unfold afterRefusedStatus
  split
  · rename_i order status passes
    split
    · -- The request had passed the check of the move before it was refused.
      obtain ⟨rfl, found, allowed, moves⟩ := statusChange_ok passes
      apply follows_found found
      · exact rfl
      · exact List.Subset.refl _
      · exact .updated _ _ _ _ _ _ allowed passes named
    · exact follows_same rfl (List.Subset.refl _)
  · exact follows_same rfl (List.Subset.refl _)

/-- A confirmed delivery delivers an order that had arrived. -/
theorem confirmDelivery_follows {requester : Requester} {target : Nat} {proof : DeliveryProof}
    (named : event = .confirmDelivery requester target proof)
    (done : confirmDelivery cfg board requester target proof = .ok later) :
    Follows cfg board event later id := by
  obtain ⟨_, -, order, found, was, -, rfl⟩ := confirmDelivery_accepted.mp done
  apply follows_found found
  · exact rfl
  · -- The proof is recorded in the same transaction.
    exact List.subset_append_left _ _
  · exact .delivered _ _ _ (List.contains_iff_mem.mp was) named
  · exact fun _ => rfl

/-- A wrong guess is counted, and the order stays where it stands. -/
theorem afterRefusedProof_follows {target : Nat} {failure : Failure} :
    Follows cfg board event (afterRefusedProof board target failure) id := by
  -- The attempt that is counted is no part of where the order stands.
  unfold afterRefusedProof
  split
  · apply follows_changeOrder
    · exact rfl
    · exact List.Subset.refl _
    · exact fun _ _ _ => .kept _
  · exact follows_same rfl (List.Subset.refl _)

/-- Offering work offers orders that were waiting. -/
theorem offerOrders_follows {requester : Requester} {orderIds : List Nat} {driverName : String}
    {minutes : Option ℚ} (done : offerOrders board requester orderIds driverName minutes = .ok later) :
    Follows cfg board event later id := by
  -- The rows were locked in full, so each of them was waiting.
  obtain ⟨-, -, driver, -, -, all, -, rfl⟩ := offerOrders_accepted.mp done
  apply follows_updateWhere
  · exact rfl
  · exact List.Subset.refl _
  · intro order before asked
    exact .offered _ _ _ (pending_of_pendingAmong all before asked)
  · exact fun _ => rfl

/-- Accepting takes an offer made to the driver who accepts. -/
theorem acceptOffer_follows {requester : Requester} {target : Nat}
    (named : event = .acceptOffer requester target)
    (done : acceptOffer board requester target = .ok later) : Follows cfg board event later id := by
  -- The row was found under its lock, offered to this driver.
  obtain ⟨-, order, found, ⟨⟨was, theirs⟩, -⟩, rfl⟩ := acceptOffer_accepted.mp done
  apply follows_found found
  · exact rfl
  · exact List.Subset.refl _
  · exact .accepted _ _ was theirs named
  · exact fun _ => rfl

/-- Declining releases an offer. -/
theorem declineOffer_follows {requester : Requester} {target : Nat} {reason : Option String}
    (done : declineOffer board requester target reason = .ok later) :
    Follows cfg board event later id := by
  -- The row was found under its lock, offered.
  obtain ⟨-, order, found, ⟨was, -⟩, rfl⟩ := declineOffer_accepted.mp done
  apply follows_found found
  · exact rfl
  · exact List.Subset.refl _
  · exact .released _ was
  · exact fun _ => rfl

/-- The sweep releases offers whose time has run out. -/
theorem expireJobOffers_follows : Follows cfg board event (expireJobOffers board) id := by
  -- Only offered rows lapse.
  apply follows_updateWhere
  · exact rfl
  · exact List.Subset.refl _
  · intro order _ lapsed
    simp only [Board.lapsed, Bool.and_eq_true, decide_eq_true_eq] at lapsed
    exact .released _ lapsed.1
  · exact fun _ => rfl

/-- Handing orders to a run's driver leaves every other order alone. -/
theorem handedOver_follows {planned : Board} {chosen : DispatchOrder → Bool} {driver : Option String}
    (same : planned.orders = board.orders) (proofs : board.confirmations ⊆ planned.confirmations) :
    Follows cfg board event (planned.handedOver chosen driver) id := by
  -- Without a driver no order is written; with one, those that are chosen are taken.
  unfold Board.handedOver
  split
  · exact follows_same same proofs
  · rename_i name _
    have written := congrArg
      (fun orders => orders.updateWhere chosen (DispatchOrder.takenBy · name) fun _ => rfl) same
    exact follows_updateWhere written proofs fun order _ _ => .taken _ _

/-- Planning a run assigns its orders to its driver. -/
theorem createTrip_follows {requester : Requester} {orderIds : List Nat} {driver : Option String}
    {vehicle : Option Nat} (done : createTrip cfg board requester orderIds driver vehicle = .ok later) :
    Follows cfg board event later id := by
  -- What a run does to orders is to hand them over.
  obtain ⟨-, -, -, -, -, -, -, -, rfl⟩ := createTrip_accepted.mp done
  exact handedOver_follows rfl (List.Subset.refl _)

/-- A run that changes hands takes its orders along. -/
theorem updateTrip_follows {requester : Requester} {tripId : Nat}
    {driver : Option (Option String)} {vehicle : Option Nat} {status : Option TripStatus}
    (done : updateTrip board requester tripId driver vehicle status = .ok later) :
    Follows cfg board event later id := by
  -- What becomes of the run is not written to its orders, its driver is.
  obtain ⟨-, -, current, -, -, -, -, -, rfl⟩ := updateTrip_accepted.mp done
  exact handedOver_follows rfl (List.Subset.refl _)

/-- Completing a stop sets its own order's status, and no other's. -/
theorem completed_order (stop : TripStop) (changedBy : String) (id : Nat) :
    (board.completed stop changedBy).order id =
      if id = stop.orderId then
        (board.order id).map (.movedTo (stopCompletionOrderStatus stop.kind))
      else board.order id := by
  unfold Board.completed
  split
  · rename_i absent
    split
    · subst id
      rw [absent]
      rfl
    · rfl
  · rename_i order found
    simp only
    split
    · -- The order has the status already, so writing it again changes nothing.
      rename_i same
      split
      · subst id
        rw [found, ← same]
        rfl
      · rfl
    · exact board.order_changeOrder stop.orderId (.movedTo (stopCompletionOrderStatus stop.kind))
        (fun _ => rfl) id

/-- Working through a run changes an order only by completing a stop of it, and confirms nothing. -/
theorem updateStop_order {requester : Requester} {stopId : Nat} {asked : Option StopStatus}
    {reason : Option String}
    (done : updateStop cfg board requester stopId asked reason = .ok later) :
    ∃ stop trip status,
      stopChange cfg board requester stopId asked reason = .ok (stop, trip, status) ∧
      (∀ id, later.order id =
        if status = .done ∧ id = stop.orderId then
          (board.order id).map (.movedTo (stopCompletionOrderStatus stop.kind))
        else board.order id) ∧
      later.confirmations = board.confirmations := by
  obtain ⟨stop, trip, status, passes, orders, -, confirmations, -⟩ := updateStop_orders done
  refine ⟨stop, trip, status, passes, fun id => ?_, confirmations⟩
  -- An order is looked up in the table that completing the stop leaves.
  rw [Board.order, orders]
  by_cases is_done : status = .done
  · simp only [is_done, if_true, true_and]
    exact completed_order _ _ id
  · simp only [is_done, false_and, if_false]
    rfl

/-- A stop that passes its checks is updated. -/
theorem updateStop_of_passes {requester : Requester} {stopId : Nat} {asked : Option StopStatus}
    {reason : Option String} {stop : TripStop} {trip : Trip} {status : StopStatus}
    (passes : stopChange cfg board requester stopId asked reason = .ok (stop, trip, status)) :
    ∃ written, updateStop cfg board requester stopId asked reason = .ok written := by
  -- Behind the checks nothing more can refuse it.
  unfold updateStop
  rw [passes]
  exact ⟨_, rfl⟩

/-- A stop that passes its checks and is done takes its order to the status it implies. -/
theorem stopDone_order {requester : Requester} {stopId : Nat} {asked : Option StopStatus}
    {reason : Option String} {stop : TripStop} {trip : Trip} {order : DispatchOrder}
    (passes : stopChange cfg board requester stopId asked reason = .ok (stop, trip, .done))
    (found : board.order stop.orderId = some order) :
    (step cfg board (.updateStop requester stopId asked reason)).order stop.orderId =
      some (order.movedTo (stopCompletionOrderStatus stop.kind)) := by
  -- The status it ends in is decided by the kind of the stop alone.
  obtain ⟨later, done⟩ := updateStop_of_passes passes
  obtain ⟨_, _, _, same, orders, -⟩ := updateStop_order done
  cases same.symm.trans passes
  simp only [step, done, committed, orders, found]
  rfl

/-- Working through a run moves the order of a stop that is done. -/
theorem updateStop_follows {requester : Requester} {stopId : Nat} {asked : Option StopStatus}
    {reason : Option String} (named : event = .updateStop requester stopId asked reason)
    (done : updateStop cfg board requester stopId asked reason = .ok later) :
    Follows cfg board event later id := by
  obtain ⟨stop, trip, status, passes, found, proofs⟩ := updateStop_order done
  refine ⟨?_, ?_, by rw [proofs]; exact List.Subset.refl _⟩
  · intro order before
    rw [found id]
    split
    · -- The stop is done, and its order is the one asked about.
      rename_i its
      obtain ⟨rfl, rfl⟩ := its
      rw [before]
      exact ⟨_, rfl, .stopDone _ _ _ _ _ _ _ passes rfl named⟩
    · exact ⟨order, before, .kept _⟩
  · intro absent next after
    rw [found id, absent] at after
    -- A stop brings no order about.
    split at after <;> cases after

/-- A refused transaction leaves every order where it stands. -/
theorem committed_follows {result : Except Failure Board}
    (follows : ∀ written, result = .ok written → Follows cfg board event written id) :
    Follows cfg board event (committed board result) id := by
  -- A transaction that was refused has been rolled back.
  cases result with
  | ok written => exact follows written rfl
  | error failure => exact follows_same rfl (List.Subset.refl _)

/-- Whatever happens, each order takes one change at most, and a new order waits. -/
theorem step_follows (cfg : DispatchConfig) (board : Board) (event : DispatchEvent) (id : Nat) :
    Follows cfg board event (step cfg board event) id := by
  -- Handler by handler: refused it changes nothing, and accepted it is what the lemma about it says.
  cases event with
  | createOrder requester request =>
    exact committed_follows fun _ done => createOrder_follows done
  | publicCreateOrder request =>
    exact committed_follows fun _ done => publicCreateOrder_follows done
  | placeOneOrder requester target pickup delivery pricing =>
    exact committed_follows fun _ done => placeOneOrder_follows done
  | assignOrderBundle requester orderIds driverName =>
    exact committed_follows fun _ done => assignOrderBundle_follows done
  | reassignOrder requester target driverName =>
    exact committed_follows fun _ done => reassignOrder_follows done
  | updateOrderStatus requester target status code committedLater =>
    simp only [step]
    split
    · rename_i written done
      exact updateOrderStatus_follows rfl done
    · exact afterRefusedStatus_follows rfl
  | confirmDelivery requester target proof =>
    simp only [step]
    split
    · rename_i written done
      exact confirmDelivery_follows rfl done
    · exact afterRefusedProof_follows
  | offerOrders requester orderIds driverName minutes =>
    exact committed_follows fun _ done => offerOrders_follows done
  | acceptOffer requester target => exact committed_follows fun _ done => acceptOffer_follows rfl done
  | declineOffer requester target reason =>
    exact committed_follows fun _ done => declineOffer_follows done
  | expireJobOffers => exact expireJobOffers_follows
  | createTrip requester orderIds driver vehicle =>
    exact committed_follows fun _ done => createTrip_follows done
  | updateTrip requester tripId driver vehicle status =>
    exact committed_follows fun _ done => updateTrip_follows done
  | updateStop requester stopId status reason =>
    exact committed_follows fun _ done => updateStop_follows rfl done
  | reportIncident driver orderId => exact follows_same rfl (List.Subset.refl _)
  | payment target status method collectedAt settledAt =>
    -- A payment writes the columns of the fare, and leaves the order where it stands.
    apply follows_changeOrder
    · exact rfl
    · exact List.Subset.refl _
    · exact fun _ _ _ => .kept _
  | elsewhere users vehicles driverDocuments vehicleDocuments elapsed => exact follows_same rfl (List.Subset.refl _)

/-- An order that stands on the board stands on it after every event, one change further at most. -/
theorem step_changes {order : DispatchOrder} (cfg : DispatchConfig) (event : DispatchEvent)
    (found : board.order id = some order) :
    ∃ next, (step cfg board event).order id = some next ∧
      Change cfg board id event order.standing next.standing :=
  (step_follows cfg board event id).changes order found

end Freight.Dispatch
