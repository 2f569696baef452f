import Freight.Dispatch.Prices
import Freight.Fleet.Vehicles

/-! What a deletion of a vehicle takes from the drivers and the orders of the business. -/

namespace Freight.Fleet

open Dispatch

variable {cfg : DispatchConfig} {board later : Board} {event : DispatchEvent} {vehicleId : Nat}

/-- Nobody holds the vehicle. -/
def Unheld (board : Board) (vehicleId : Nat) : Prop :=
  ∀ vehicle ∈ board.vehicles.rows, vehicle.id = vehicleId → vehicle.currentDriverId = none

/-- Nothing aboard the vehicle is still to be delivered. -/
def Unladen (board : Board) (vehicleId : Nat) : Prop :=
  ∀ id order, board.order id = some order → order.vehicleId = some vehicleId → order.isOpen = false

/-- The vehicle an event hands to a driver. -/
def FleetEvent.handsOver : FleetEvent → Option Nat
  | .assignVehicle vehicleId (some _) => some vehicleId
  | .inviteDriver _ vehicleId => vehicleId
  | _ => none

/-- An event takes up again an order that was finished, and still aboard the vehicle. -/
def FleetEvent.TakesUp (cfg : DispatchConfig) (board : Board) (event : FleetEvent) (vehicleId : Nat) : Prop :=
  ∃ id before after, board.order id = some before ∧ before.vehicleId = some vehicleId ∧ before.isOpen = false ∧
    (event.happens cfg board).order id = some after ∧ after.isOpen = true

/--
The condition on an event: while the deletion of a vehicle is under way, the vehicle is not handed to a driver,
and no finished order aboard it is taken up again.
-/
def LeftVacant (cfg : DispatchConfig) (pool : Pool Board Deletion) : PoolEvent Nat Bool FleetEvent → Prop
  | .outside event => ∀ call ∈ pool.calls, ∀ vehicleId ∈ call.target,
    event.handsOver ≠ some vehicleId ∧ ¬ event.TakesUp cfg pool.shared vehicleId
  | _ => True

/-- No statement of a deletion changes an order that is open, or takes a vehicle from a driver. -/
def TakesNothing (cfg : DispatchConfig) (pool : Pool Board Deletion) (event : PoolEvent Nat Bool FleetEvent) : Prop :=
  match event with
  | .run .. =>
    let later := ((fleetSystem cfg).step pool event).shared
    (∀ id order, pool.shared.order id = some order → order.isOpen = true → later.order id = some order) ∧
      ∀ vehicle ∈ pool.shared.vehicles.rows, vehicle.currentDriverId ≠ none → vehicle ∈ later.vehicles.rows
  | _ => True

/-- What a deletion has found, and relies on. -/
def Deletion.Sound (board : Board) : Deletion → Prop
  | .counting vehicleId => Unheld board vehicleId
  | .deleting vehicleId => Unheld board vehicleId ∧ Unladen board vehicleId
  | _ => True

section Aboard

/-- An order that is aboard a vehicle after an event was aboard it before, or a driver held the vehicle. -/
def Boarded (board later : Board) (vehicleId : Nat) : Prop :=
  ∀ id next, later.order id = some next → next.vehicleId = some vehicleId →
    (∃ order, board.order id = some order ∧ order.vehicleId = some vehicleId) ∨ ¬ Unheld board vehicleId

/-- Where every order is aboard what it was aboard, nothing has boarded. -/
theorem boarded_same (same : ∀ id, SameReading DispatchOrder.vehicleId board later id) :
    Boarded board later vehicleId := by
  -- The order was aboard the same vehicle before.
  intro id next after aboard
  have reads := same id
  unfold SameReading at reads
  rw [after, Option.map_some, aboard] at reads
  obtain ⟨order, found, was⟩ := Option.map_eq_some_iff.mp reads.symm
  exact .inl ⟨order, found, was⟩

/-- Where no order is written, nothing has boarded. -/
theorem boarded_untouched (same : later.orders = board.orders) : Boarded board later vehicleId :=
  boarded_same fun _ => sameReading_same same

/-- Nor where every order that is written stays in its vehicle. -/
theorem boarded_rewritten {chosen : DispatchOrder → Bool} {change : DispatchOrder → DispatchOrder}
    (written : later.orders.rows = board.orders.rows.map fun order => if chosen order then change order else order)
    (stays : ∀ order, (change order).vehicleId = order.vehicleId)
    (keeps : ∀ order : DispatchOrder, (change order).id = order.id) : Boarded board later vehicleId :=
  boarded_same fun _ => sameReading_updateWhere written stays keeps

/-- A new order is aboard nothing. -/
theorem boarded_insert {row : Nat → DispatchOrder} {own : ∀ serial, (row serial).id = serial}
    (same : later.orders = board.orders.insert row own) (ashore : ∀ serial, (row serial).vehicleId = none) :
    Boarded board later vehicleId := by
  -- An order that is found is an old one as it was, or the new one.
  intro id next after aboard
  unfold Board.order at after
  rw [same] at after
  rcases Table.find?_insert_cases after with old | ⟨-, rfl⟩
  · exact .inl ⟨next, old, aboard⟩
  · rw [ashore] at aboard
    cases aboard

/-- An order that is put aboard a driver's vehicle is put aboard one that is held. -/
theorem boarded_held {driverId : Nat} {vehicle : FleetVehicle} {chosen : DispatchOrder → Bool}
    {change : DispatchOrder → DispatchOrder} (found : board.vehicleOf driverId = some vehicle)
    (written : later.orders.rows = board.orders.rows.map fun order => if chosen order then change order else order)
    (aboard : ∀ order, (change order).vehicleId = some vehicle.id)
    (keeps : ∀ order : DispatchOrder, (change order).id = order.id) : Boarded board later vehicleId := by
  obtain ⟨listed, held⟩ := List.mem_filter.mp (Board.mem_of_vehicleOf found)
  intro id next after rides
  rw [order_of_written written keeps id] at after
  obtain ⟨order, before, rfl⟩ := Option.map_eq_some_iff.mp after
  by_cases picked : chosen order = true
  · -- It rides in the vehicle that was found for the driver.
    rw [if_pos picked, aboard] at rides
    refine .inr fun unheld => ?_
    have none := unheld vehicle listed (Option.some.inj rides)
    rw [none] at held
    simp at held
  · rw [if_neg picked] at rides
    exact .inl ⟨order, before, rides⟩

/-- A refused request puts nothing aboard. -/
theorem boarded_committed {result : Except Failure Board}
    (boarded : ∀ written, result = .ok written → Boarded board written vehicleId) :
    Boarded board (committed board result) vehicleId := by
  -- A request that was refused has been rolled back.
  cases result with
  | ok written => exact boarded written rfl
  | error failure => exact boarded_untouched rfl

/-- A new status leaves an order in its vehicle. -/
theorem statusUpdated_vehicleId (order : DispatchOrder) (status : OrderStatus) (code : String) :
    (order.statusUpdated cfg board status code).vehicleId = order.vehicleId := by
  -- A code is issued beside the status, if any.
  unfold DispatchOrder.statusUpdated
  split
  · simp only [DispatchOrder.codeIssued]
    split <;> rfl
  · rfl

/-- Handing orders to a run's driver leaves them in their vehicles. -/
theorem boarded_handedOver {planned : Board} {chosen : DispatchOrder → Bool} {driver : Option String}
    (same : planned.orders = board.orders) : Boarded board (planned.handedOver chosen driver) vehicleId := by
  -- The driver and the status are all that is written.
  refine boarded_same fun id => ?_
  cases named : Payment.present driver with
  | none =>
    unfold Board.handedOver
    rw [named]
    exact sameReading_same same
  | some name => exact sameReading_updateWhere (handedOver_rows same named) (fun _ => rfl) fun _ => rfl

section Handlers

variable {requester : Requester} {target : Nat}

/-- An order that is reassigned goes aboard the vehicle of its new driver, or back to the queue aboard nothing. -/
theorem boarded_reassignOrder {driverName : Option String}
    (done : reassignOrder cfg board requester target driverName = .ok later) : Boarded board later vehicleId := by
  obtain ⟨-, order, -, -, -, ⟨-, rfl⟩ | ⟨-, -, driver, -, vehicle, found, -, -, rfl⟩⟩ := reassignOrder_accepted.mp done
  · -- Only the order itself is written, and it is left aboard nothing.
    intro id next after aboard
    have after : (board.changeOrder target _ DispatchOrder.unassigned_id).order id = some next := after
    rw [Board.order_changeOrder] at after
    split at after
    · obtain ⟨order, -, rfl⟩ := Option.map_eq_some_iff.mp after
      cases aboard
    · exact .inl ⟨next, after, aboard⟩
  · exact boarded_held found rfl (fun _ => rfl) fun _ => rfl

/-- A change of an order's status leaves it in its vehicle, refused or not. -/
theorem boarded_updateOrderStatus {asked : Option OrderStatus} {code : String} {committedLater : Bool} :
    Boarded board (step cfg board (.updateOrderStatus requester target asked code committedLater)) vehicleId := by
  simp only [step]
  split
  · rename_i later done
    obtain ⟨order, status, -, -, rfl⟩ := updateOrderStatus_accepted.mp done
    exact boarded_rewritten rfl (fun _ => statusUpdated_vehicleId ..) fun _ => statusUpdated_id ..
  · -- What a refusal may leave behind is the bare UPDATE of the status.
    unfold afterRefusedStatus
    split
    · split
      · exact boarded_rewritten rfl (fun _ => rfl) fun _ => rfl
      · exact boarded_untouched rfl
    · exact boarded_untouched rfl

/-- So does a confirmation. -/
theorem boarded_confirmDelivery {proof : DeliveryProof} :
    Boarded board (step cfg board (.confirmDelivery requester target proof)) vehicleId := by
  simp only [step]
  split
  · rename_i later done
    obtain ⟨_, -, order, -, -, -, rfl⟩ := confirmDelivery_accepted.mp done
    exact boarded_rewritten rfl (fun _ => rfl) fun _ => rfl
  · -- What a refusal leaves behind is the attempt it counted.
    unfold afterRefusedProof
    split
    · exact boarded_rewritten rfl (fun _ => rfl) fun _ => rfl
    · exact boarded_untouched rfl

/-- So does whatever becomes of a stop: the run is not written to its orders. -/
theorem boarded_updateStop {asked : Option StopStatus} {reason : Option String}
    (done : updateStop cfg board requester target asked reason = .ok later) : Boarded board later vehicleId := by
  -- Only an order whose drop is done is written, and its status only.
  obtain ⟨stop, trip, status, -, found, -⟩ := updateStop_order done
  refine boarded_same fun id => ?_
  unfold SameReading
  rw [found id]
  split
  · rw [Option.map_map]
    rfl
  · rfl

end Handlers

/-- Nothing that dispatch does puts an order aboard a vehicle that nobody holds. -/
theorem boarded_step (cfg : DispatchConfig) (board : Board) (event : DispatchEvent) (vehicleId : Nat) :
    Boarded board (step cfg board event) vehicleId := by
  -- An event books orders, hands them to a driver, or rewrites them where they are.
  cases event with
  -- What is booked is on no vehicle yet.
  | createOrder requester request =>
    refine boarded_committed fun later done => ?_
    obtain ⟨priced, -, inserted⟩ := createOrder_row done
    exact boarded_insert inserted fun _ => rfl
  | publicCreateOrder request =>
    refine boarded_committed fun later done => ?_
    obtain ⟨priced, -, inserted⟩ := publicCreateOrder_row done
    exact boarded_insert inserted fun _ => rfl
  -- The vehicle that is loaded is the one that its driver holds.
  | assignOrderBundle requester orderIds driverName =>
    refine boarded_committed fun later done => ?_
    obtain ⟨-, -, -, driver, -, vehicle, found, -, -, -, -, -, rfl⟩ := assignOrderBundle_accepted.mp done
    exact boarded_held found rfl (fun _ => rfl) fun _ => rfl
  | reassignOrder => exact boarded_committed fun later done => boarded_reassignOrder done
  -- Neither a placement nor an offer moves an order to a vehicle.
  | placeOneOrder requester target pickup delivery pricing =>
    refine boarded_committed fun later done => ?_
    obtain ⟨-, -, order, -, -, rfl⟩ := placeOneOrder_accepted.mp done
    exact boarded_rewritten rfl (fun _ => rfl) fun _ => placed_id _ _
  | offerOrders requester orderIds driverName minutes =>
    refine boarded_committed fun later done => ?_
    obtain ⟨-, -, driver, -, -, -, -, rfl⟩ := offerOrders_accepted.mp done
    exact boarded_rewritten rfl (fun _ => rfl) fun _ => rfl
  | acceptOffer requester target =>
    refine boarded_committed fun later done => ?_
    obtain ⟨-, order, -, -, rfl⟩ := acceptOffer_accepted.mp done
    exact boarded_rewritten rfl (fun _ => rfl) fun _ => rfl
  | declineOffer requester target reason =>
    refine boarded_committed fun later done => ?_
    obtain ⟨-, order, -, -, rfl⟩ := declineOffer_accepted.mp done
    exact boarded_rewritten rfl (fun _ => rfl) fun _ => rfl
  -- A run hands its orders to its driver alone, and their vehicle stays as it was.
  | createTrip requester orderIds driver vehicle =>
    refine boarded_committed fun later done => ?_
    obtain ⟨-, -, -, -, -, -, -, -, rfl⟩ := createTrip_accepted.mp done
    exact boarded_handedOver rfl
  | updateTrip requester tripId driver vehicle status =>
    refine boarded_committed fun later done => ?_
    obtain ⟨-, -, trip, -, -, -, -, -, rfl⟩ := updateTrip_accepted.mp done
    exact boarded_handedOver rfl
  | updateOrderStatus => exact boarded_updateOrderStatus
  | confirmDelivery => exact boarded_confirmDelivery
  | updateStop => exact boarded_committed fun later done => boarded_updateStop done
  | expireJobOffers | payment => exact boarded_rewritten rfl (fun _ => rfl) fun _ => rfl
  | reportIncident | elsewhere => exact boarded_untouched rfl

/-- Nor does anything else that happens. -/
theorem boarded_happens (cfg : DispatchConfig) (board : Board) (event : FleetEvent) (vehicleId : Nat) :
    Boarded board (event.happens cfg board) vehicleId := by
  -- Apart from dispatch nothing here puts an order aboard.
  cases event with
  | dispatch event => exact boarded_step cfg board event vehicleId
  | forceOrderStatus requester id status reason =>
    simp only [FleetEvent.happens]
    split
    · rename_i later done
      obtain ⟨-, status, -, -, order, -, -, rfl⟩ := forceOrderStatus_accepted.mp done
      exact boarded_rewritten rfl (fun _ => rfl) fun _ => rfl
    · exact boarded_untouched rfl
  | createVehicle name type maxWeight maxRangeKm =>
    refine boarded_untouched ?_
    simp only [FleetEvent.happens, createVehicle]
    split
    · rfl
    · split <;> rfl
  | assignVehicle target driverId =>
    refine boarded_untouched ?_
    simp only [FleetEvent.happens, assignVehicle]
    split <;> rfl
  | inviteDriver driverId target =>
    refine boarded_untouched ?_
    simp only [FleetEvent.happens, inviteDriver]
    split <;> rfl

end Aboard

section Steps

/-- A vehicle nobody holds is held after an event only by the driver it was handed to. -/
theorem Unheld.happens (unheld : Unheld board vehicleId) {event : FleetEvent}
    (kept : event.handsOver ≠ some vehicleId) : Unheld (event.happens cfg board) vehicleId := by
  cases event with
  | dispatch event => exact unheld
  | forceOrderStatus requester id status reason =>
    simp only [FleetEvent.happens]
    split
    · rename_i later done
      obtain ⟨-, status, -, -, order, -, -, rfl⟩ := forceOrderStatus_accepted.mp done
      exact unheld
    · exact unheld
  | createVehicle name type maxWeight maxRangeKm =>
    simp only [FleetEvent.happens, createVehicle]
    split
    · exact unheld
    · split
      · -- A new vehicle has no driver yet.
        intro vehicle member own
        rcases List.mem_append.mp member with old | new
        · exact unheld vehicle old own
        · rw [List.mem_singleton.mp new]
      · exact unheld
  | assignVehicle target driverId =>
    simp only [FleetEvent.happens, assignVehicle]
    split
    · intro vehicle member own
      obtain ⟨old, listed, rfl⟩ := List.mem_map.mp member
      by_cases named : old.id = target
      · simp only [named, decide_true, if_true] at own ⊢
        -- The vehicle was handed back.
        cases driverId with
        | none => rfl
        | some driverId => exact absurd (congrArg some own) kept
      · simp only [named, decide_false, Bool.false_eq_true, if_false] at own ⊢
        exact unheld old listed own
    · exact unheld
  | inviteDriver driverId target =>
    cases target with
    | none => exact unheld
    | some target =>
      intro vehicle member own
      obtain ⟨old, listed, rfl⟩ := List.mem_map.mp member
      have other : old.id ≠ target := by
        intro named
        refine kept (congrArg some ?_)
        rw [← own]
        split <;> exact named.symm
      simp only [other, decide_false, Bool.false_and, Bool.false_eq_true, if_false] at own ⊢
      exact unheld old listed own

/-- A vehicle that is neither held nor laden is not laden after an event that takes nothing up again. -/
theorem Unladen.happens (unladen : Unladen board vehicleId) (unheld : Unheld board vehicleId) {event : FleetEvent}
    (finished : ¬ event.TakesUp cfg board vehicleId) : Unladen (event.happens cfg board) vehicleId := by
  -- If it were laden after, its order has boarded it just now, which only a held vehicle lets an order do.
  intro id next after aboard
  by_contra open_
  have open_ : next.isOpen = true := by simpa using open_
  rcases boarded_happens cfg board event vehicleId id next after aboard with ⟨order, before, was⟩ | held
  · exact finished ⟨id, order, next, before, was, unladen id order before was, after, open_⟩
  · exact held unheld

/-- A deletion leaves a vehicle unheld that nobody holds. -/
theorem Unheld.deleted (unheld : Unheld board vehicleId) (other : Nat) :
    Unheld (Board.vehicleDeleted board other) vehicleId :=
  fun vehicle member own => unheld vehicle (Table.mem_deleteWhere.mp member).1 own

/-- The orders that named the vehicle name none. -/
theorem vehicleDeleted_order (board : Board) (vehicleId id : Nat) :
    (Board.vehicleDeleted board vehicleId).order id = (board.order id).map fun order =>
      if order.vehicleId = some vehicleId then { order with vehicleId := none } else order := by
  -- The foreign key sets them to NULL.
  simp [Board.vehicleDeleted, Dispatch.Board.order]

/-- And one that nothing is aboard of empty. -/
theorem Unladen.deleted (unladen : Unladen board vehicleId) (other : Nat) :
    Unladen (Board.vehicleDeleted board other) vehicleId := by
  -- An order still aboard after it was aboard before.
  intro id next after aboard
  rw [vehicleDeleted_order] at after
  obtain ⟨order, before, rfl⟩ := Option.map_eq_some_iff.mp after
  split at aboard
  · cases aboard
  · rename_i apart
    rw [if_neg apart]
    exact unladen id order before aboard

/-- What a deletion has found stays so while the events leave its vehicle alone. -/
theorem Deletion.Sound.kept {call : Deletion} (sound : call.Sound board)
    (unheld : ∀ vehicleId ∈ call.target, Unheld board vehicleId → Unheld later vehicleId)
    (unladen : ∀ vehicleId ∈ call.target, Unheld board vehicleId → Unladen board vehicleId →
      Unladen later vehicleId) : call.Sound later := by
  -- By what the deletion has found so far: nothing, no one who holds it, or no load either.
  cases call with
  | counting vehicleId => exact unheld vehicleId rfl sound
  | deleting vehicleId => exact ⟨unheld vehicleId rfl sound.1, unladen vehicleId rfl sound.1 sound.2⟩
  | finding | answered | stopped => trivial

/-- A count of none says that the vehicle is empty. -/
theorem unladen_of_count (none_ : ¬ 0 < Board.activeOrders board vehicleId) : Unladen board vehicleId := by
  -- The count is of open orders aboard, and there is none.
  intro id order found aboard
  have listed := (Table.find?_eq_some.mp found).1
  have counted := List.countP_eq_zero.mp (Nat.eq_zero_of_not_pos none_) order listed
  simpa [aboard] using counted

/-- The next statement of a deletion leaves it with what it has found, and what it deletes is vacant. -/
theorem Deletion.next_sound {call : Deletion} (sound : call.Sound board) (works : Bool) :
    (call.next board works).2.Sound board ∧
      ∀ vehicleId, (call.next board works).1 = .deleteVehicle vehicleId →
        Unheld board vehicleId ∧ Unladen board vehicleId := by
  cases works with
  | false => cases call <;> exact ⟨trivial, fun _ deletes => by cases deletes⟩
  | true =>
    cases call with
    | finding vehicleId =>
      simp only [Deletion.next, if_true]
      split
      · exact ⟨trivial, fun _ deletes => by cases deletes⟩
      · rename_i vehicle found
        split
        · exact ⟨trivial, fun _ deletes => by cases deletes⟩
        · rename_i unheld
          refine ⟨fun other member own => ?_, fun _ deletes => by cases deletes⟩
          -- There is one row under the id, and it is the one that was read.
          obtain ⟨listed, same⟩ := Table.find?_eq_some.mp found
          rw [board.vehicles.same_row member listed (own.trans same.symm)]
          simpa using unheld
    | counting vehicleId =>
      simp only [Deletion.next, if_true]
      split
      · exact ⟨trivial, fun _ deletes => by cases deletes⟩
      · rename_i none_
        exact ⟨⟨sound, unladen_of_count none_⟩, fun _ deletes => by cases deletes⟩
    | deleting vehicleId =>
      refine ⟨trivial, fun other deletes => ?_⟩
      cases deletes
      exact sound
    | answered | stopped => exact ⟨trivial, fun _ deletes => by cases deletes⟩

/-- The deletion of a vacant vehicle changes no open order. -/
theorem order_vehicleDeleted {id : Nat} {order : DispatchOrder} (unladen : Unladen board vehicleId)
    (found : board.order id = some order) (open_ : order.isOpen = true) :
    (Board.vehicleDeleted board vehicleId).order id = some order := by
  -- The foreign key empties only the rows that name the vehicle, and this one does not.
  have ashore : order.vehicleId ≠ some vehicleId := by
    intro aboard
    rw [unladen id order found aboard] at open_
    cases open_
  rw [vehicleDeleted_order, found, Option.map_some, if_neg ashore]

end Steps

/-- Every deletion keeps what it has found, while no event disturbs it. -/
theorem sound_keeps (cfg : DispatchConfig) :
    (fleetSystem cfg).Keeps (fun board calls => ∀ call ∈ calls, call.Sound board) (LeftVacant cfg) where
  perm same sound call member := sound call (same.mem_iff.mpr member)
  moves := by
    intro pool index works call others _ sound _
    obtain ⟨own, rest⟩ := List.forall_mem_cons.mp sound
    obtain ⟨found, -⟩ := Deletion.next_sound own works
    show ∀ other ∈ (call.next pool.shared works).2 :: others,
      other.Sound ((call.next pool.shared works).1.execute pool.shared)
    generalize stated : call.next pool.shared works = next at found
    obtain ⟨statement, after⟩ := next
    cases statement with
    | unseen => exact List.forall_mem_cons.mpr ⟨found, rest⟩
    | deleteVehicle deleted =>
      -- A vehicle that is gone takes nothing from what the others have found.
      exact List.forall_mem_cons.mpr
        ⟨found.kept (fun _ _ unheld => unheld.deleted deleted) fun _ _ _ unladen => unladen.deleted deleted,
          fun other member => (rest other member).kept (fun _ _ unheld => unheld.deleted deleted)
            fun _ _ _ unladen => unladen.deleted deleted⟩
  arrives := fun sound _ => List.forall_mem_cons.mpr ⟨trivial, sound⟩
  stops := fun _ sound _ => List.forall_mem_cons.mpr ⟨trivial, (List.forall_mem_cons.mp sound).2⟩
  happens := by
    intro pool event sound undisturbed _ call member
    refine (sound call member).kept (fun vehicleId own unheld => ?_) fun vehicleId own unheld unladen => ?_
    · exact unheld.happens (undisturbed call member vehicleId own).1
    · exact unladen.happens unheld (undisturbed call member vehicleId own).2

/-- A statement of a deletion that has found what it relies on takes nothing from anybody. -/
theorem takesNothing_of_sound (cfg : DispatchConfig) (pool : Pool Board Deletion)
    (event : PoolEvent Nat Bool FleetEvent) (sound : ∀ call ∈ pool.calls, call.Sound pool.shared) :
    TakesNothing cfg pool event := by
  -- Only a statement of a deletion can take anything from anybody.
  cases event with
  | call | stop | outside => trivial
  | run index works =>
    rcases @CallSystem.step_run_cases _ _ _ _ _ _ _ (fleetSystem cfg) _ pool index works with
      same | ⟨call, others, taken, shared, -⟩
    · show _ ∧ _
      rw [same]
      exact ⟨fun _ _ found _ => found, fun _ member _ => member⟩
    · obtain ⟨-, vacant⟩ := Deletion.next_sound (sound call (taken.all.mem_iff.mpr List.mem_cons_self)) works
      show _ ∧ _
      rw [shared]
      show (∀ id order, _ → _ → ((call.next pool.shared works).1.execute pool.shared).order id = some order) ∧
        ∀ vehicle ∈ _, _ → vehicle ∈ ((call.next pool.shared works).1.execute pool.shared).vehicles.rows
      generalize call.next pool.shared works = next at vacant
      obtain ⟨statement, after⟩ := next
      cases statement with
      | unseen => exact ⟨fun _ _ found _ => found, fun _ member _ => member⟩
      | deleteVehicle vehicleId =>
        obtain ⟨unheld, unladen⟩ := vacant vehicleId rfl
        refine ⟨fun id order found open_ => order_vehicleDeleted unladen found open_, fun vehicle member held => ?_⟩
        refine Table.mem_deleteWhere.mpr ⟨member, ?_⟩
        simpa using fun own => held (unheld vehicle member own)

/--
While the vehicles that are being deleted are handed to nobody, no deletion takes an open order's vehicle from it,
or a driver's from the driver.
-/
theorem deletions_take_nothing (cfg : DispatchConfig) (board : Board)
    (events : List (PoolEvent Nat Bool FleetEvent))
    (undisturbed : Along (fleetSystem cfg).step (LeftVacant cfg) ⟨board, []⟩ events) :
    Along (fleetSystem cfg).step (TakesNothing cfg) ⟨board, []⟩ events := by
  -- With no call begun there is nothing found yet to rely on.
  refine undisturbed.mono_under (fun pool event sound condition => (sound_keeps cfg).step pool event sound condition)
    (fun pool event sound _ => takesNothing_of_sound cfg pool event sound) ?_
  intro call member
  cases member

/-- A vehicle nobody holds, and one with a driver and an order aboard. -/
def twoVehicles : Board where
  orders := ⟨[{ id := 1, status := .assigned, assignedTo := some "driver", vehicleId := some 2 }], by decide⟩
  vehicles := ⟨[{ id := 1 }, { id := 2, currentDriverId := some 7 }], by decide⟩

/-- The one is deleted while the other is taken from its driver. -/
theorem deletions_take_nothing_twoVehicles :
    Along (fleetSystem .kigali).step (TakesNothing .kigali) ⟨twoVehicles, []⟩
      [.call 1, .run 0 true, .outside (.assignVehicle 2 none), .run 0 true, .run 0 true] := by
  refine deletions_take_nothing .kigali twoVehicles _ ⟨trivial, trivial, ?_, trivial, trivial, trivial⟩
  intro call member vehicleId own
  obtain rfl : call = .counting 1 := List.mem_singleton.mp member
  obtain rfl : 1 = vehicleId := Option.some.inj own
  refine ⟨by decide, ?_⟩
  -- No order is written, so that none is open that was not.
  rintro ⟨id, before, after, found, -, finished, later, open_⟩
  cases found.symm.trans later
  rw [finished] at open_
  cases open_

end Freight.Fleet
