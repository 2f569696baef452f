import Freight.Dispatch.Showing

/-! When the dispatcher's live board shows what the server holds, throughout a run. -/

namespace Freight.Dispatch

variable {cfg : DispatchConfig} {board later : Board} {id : Nat}

section Booking

variable {requester : Requester}

/-- A new order is due among those that wait. -/
theorem due_insert (row : Nat → DispatchOrder) (own : ∀ serial, (row serial).id = serial)
    (same : later.orders = board.orders.insert row own)
    (waits : (row board.orders.nextSerial).standing = .waiting) (id : Nat) :
    later.due id = if id = board.orders.nextSerial then ⟨1, []⟩ else board.due id := by
  -- The new row is found under the next serial, and the others under theirs.
  have found : later.order id = _ := (congrArg (fun orders => orders.find? id) same).trans
    (board.orders.find?_insert row own id)
  unfold Board.due
  rw [found]
  split
  · have status : (row board.orders.nextSerial).status = .pending := congrArg Standing.status waits
    simp [DispatchOrder.due, status]
  · rfl

/-- There was no order under the next serial. -/
theorem due_nextSerial (board : Board) : board.due board.orders.nextSerial = .nothing := by
  -- Every row is numbered below it.
  unfold Board.due
  cases found : board.order board.orders.nextSerial with
  | none => rfl
  | some order =>
    have below := board.orders.lt_nextSerial (Table.find?_eq_some.mp found).1
    rw [id_of_found found] at below
    exact absurd below (lt_irrefl _)

/-- A dispatcher's order joins those that wait, and its row is sent. -/
theorem createOrder_keeps (requester : Requester) (request : NewOrder) :
    Keeps cfg board (.createOrder requester request) := by
  -- The row that is sent is the one inserted, so the board is told of just the order that is new.
  refine (keeps_announced rfl rfl).mpr fun written done id => ?_
  obtain ⟨-, -, -, priced, -, same⟩ := createOrder_accepted.mp done
  have own : ∀ serial, (request.row priced serial).id = serial := fun _ => rfl
  have orders : written.orders = board.orders.insert (request.row priced) own :=
    (congrArg Board.orders same).symm
  have there : written.order board.orders.nextSerial =
      some (request.row priced board.orders.nextSerial) := by
    unfold Board.order
    rw [orders, Table.find?_insert, if_pos rfl]
  rw [due_insert _ _ orders rfl, returned_singleton, there]
  simp only [Option.toList_some, List.map_cons, List.map_nil, List.foldl_cons, List.foldl_nil,
    Showing.heard, DispatchOrder.returned]
  by_cases new : id = board.orders.nextSerial
  · subst new
    rw [if_pos rfl, due_nextSerial]
    exact if_pos rfl
  · rw [if_neg new]
    exact if_neg (Ne.symm new)

/-- Nobody is told of a customer's booking. -/
theorem publicCreateOrder_keeps_iff {request : NewBooking} :
    Keeps cfg board (.publicCreateOrder request) ↔
      ∀ written, publicCreateOrder board request ≠ .ok written := by
  refine (@keeps_announced _ _ _ _ (fun _ => []) ?_ rfl).trans
    (forall_congr' fun written => forall_congr' fun done => ?_)
  · unfold announced
    split <;> rfl
  · obtain ⟨-, priced, -, same⟩ := publicCreateOrder_accepted.mp done
    -- The new order waits, so the board should show it, and it was told of nothing.
    refine iff_false_intro fun keeps => ?_
    have own : ∀ serial, (request.row priced serial).id = serial := fun _ => rfl
    have shown := keeps board.orders.nextSerial
    rw [due_insert _ own (congrArg Board.orders same).symm rfl, if_pos rfl, List.foldl_nil,
      due_nextSerial] at shown
    cases shown

end Booking

section Assigning

/-- A bundle leaves those that wait and joins those in flight, and its rows are sent. -/
theorem assignOrderBundle_keeps (requester : Requester) (orderIds : List Nat) (driverName : String) :
    Keeps cfg board (.assignOrderBundle requester orderIds driverName) := by
  refine (keeps_announced rfl rfl).mpr fun written done id => ?_
  obtain ⟨-, -, -, driver, -, vehicle, -, -, -, all, -, -, same⟩ := assignOrderBundle_accepted.mp done
  -- What the board should show of an order is read off its row before and after.
  have orders : written.orders.rows = board.orders.rows.map fun order =>
      if orderIds.contains order.id then order.assigned driverName vehicle.id else order := by
    rw [← same]
    rfl
  -- The board hears of an order exactly when a row with its id is sent.
  have sent : ((written.returned orderIds).map ListedOrder.id).contains id =
      !((written.returned orderIds).filter fun row => row.id = id).isEmpty := by
    rw [Bool.eq_iff_iff]
    simp [List.filter_eq_nil_iff]
  simp only [List.foldl_cons, List.foldl_nil, Showing.heard, sent, returned_filter]
  rw [due_written orders fun _ => rfl, order_of_written orders fun _ => rfl]
  cases found : board.order id with
  | none =>
    unfold Board.due
    rw [found]
    simp [Showing.nothing]
  | some order =>
    have own := id_of_found found
    simp only [Option.map_some, Option.getD_some, due_of_found found, own]
    by_cases asked : orderIds.contains id = true
    · -- An order of the bundle was waiting.
      have was := pending_of_pendingAmong all found (by rw [own]; exact asked)
      simp only [asked, if_true, due_pending was]
      rw [due_assigned (show (order.assigned driverName vehicle.id).status = .assigned from rfl)]
      rfl
    · -- An order outside the bundle is neither written nor sent.
      simp only [asked]
      rfl

/-- An order in flight changes hands, or goes back to those that wait, and the board is told. -/
theorem reassignOrder_keeps (requester : Requester) (target : Nat) (driverName : Option String) :
    Keeps cfg board (.reassignOrder requester target driverName) := by
  refine (keeps_announced rfl rfl).mpr fun written done => ?_
  obtain ⟨-, order, found, -, was, named⟩ := reassignOrder_accepted.mp done
  have own := id_of_found found
  simp only
  rcases named with ⟨back, same⟩ | ⟨named, -, driver, -, vehicle, -, -, -, same⟩
  · -- A blank name gives the order back, which two messages tell.
    have orders : written.orders = (board.changeOrder target DispatchOrder.unassigned
        DispatchOrder.unassigned_id).orders := (congrArg Board.orders same).symm
    have there : written.order target = some order.unassigned := by
      unfold Board.order
      rw [orders]
      refine (board.order_changeOrder target _ DispatchOrder.unassigned_id target).trans ?_
      rw [if_pos rfl, found, Option.map_some]
    rw [if_pos back, returned_singleton, there]
    refine (keeps_changeOrder_iff DispatchOrder.unassigned_id found orders ?_).mpr ?_
    · intro id other event listed shown
      have sent : event = .orderUnassigned target ∨
          event = .orderCreated order.unassigned.returned := by simpa using listed
      rcases sent with rfl | rfl
      · exact if_neg (Ne.symm other)
      · exact if_neg fun its => other (its.symm.trans own)
    · -- The row is taken out of one feed and put into the other.
      rw [due_assigned was, due_pending (show order.unassigned.status = .pending from rfl)]
      simp [Showing.heard, DispatchOrder.returned, DispatchOrder.unassigned, own]
  · -- Any other name moves it from one driver to another, and it stays in flight.
    have orders : written.orders = (board.changeOrder target (fun order => { order with
        assignedTo := some (String.ofList (trim (driverName.getD "").toList))
        vehicleId := some vehicle.id }) fun _ => rfl).orders := (congrArg Board.orders same).symm
    rw [if_neg named]
    refine (keeps_changeOrder_iff _ found orders ?_).mpr ?_
    · intro id other event listed shown
      rw [List.mem_singleton.mp listed]
      exact if_neg (Ne.symm other)
    · rw [due_assigned was, due_assigned]
      · simp [Showing.heard]
      · exact was

end Assigning

section Status

variable {requester : Requester} {target : Nat} {order : DispatchOrder} {moved : OrderStatus}

/-- What is said about an order is said about no other. -/
theorem about_statusUpdated {status : OrderStatus} (other : id ≠ target) (shown : Showing) :
    shown.heard id (.orderStatusUpdated target status) = shown :=
  if_neg fun its => other its.1.symm

/-- A change of status is heard where it takes a row out of what is in flight, and changes nothing else. -/
theorem heard_moved_iff {next : DispatchOrder} (status : next.status = moved)
    (driver : next.assignedTo = order.assignedTo) :
    order.due.heard target (.orderStatusUpdated target moved) = next.due ↔
      (order.status = .pending ↔ moved = .pending) ∧ (moved = .assigned → order.status = .assigned) := by
  -- What the board hears is a matter of the two statuses, and is settled by going through them.
  subst status
  simp only [Showing.heard, true_and, DispatchOrder.due, driver]
  cases order.status <;> cases next.status <;> simp

/-- A change of status nobody hears of has to be to a status the feeds treat alike. -/
theorem unheard_moved_iff {next : DispatchOrder} (status : next.status = moved)
    (driver : next.assignedTo = order.assignedTo) :
    order.due = next.due ↔
      (order.status = .pending ↔ moved = .pending) ∧ (order.status = .assigned ↔ moved = .assigned) := by
  -- Both feeds are a matter of the two statuses.
  subst status
  simp only [DispatchOrder.due, driver]
  cases order.status <;> cases next.status <;> simp

/-- The status an order leaves and the one it gets, where the live board hears all it needs of the move. -/
structure HeardMove (source target : OrderStatus) : Prop where
  /-- Nothing that is said takes a row out of those that wait, or puts one there. -/
  leaves : source ≠ .pending
  reaches : target ≠ .pending
  /-- Nor does it put one in flight. -/
  assigned : target = .assigned → source = .assigned

/-- No order goes back to where it waits by a change of status that says so, nor stays there. -/
theorem heardMove_iff {source target : OrderStatus} (allowed : canTransition source target = true) :
    ((source = .pending ↔ target = .pending) ∧ (target = .assigned → source = .assigned)) ↔
      HeardMove source target := by
  -- No status leads back to pending, and the table does not let pending stay.
  constructor
  · rintro ⟨waits, flies⟩
    have leaves : source ≠ .pending := by
      rintro rfl
      rw [waits.mp rfl] at allowed
      exact absurd allowed (by decide)
    exact ⟨leaves, fun back => leaves (waits.mpr back), flies⟩
  · intro heard
    exact ⟨iff_of_false heard.leaves heard.reaches, heard.assigned⟩

/-- A status update is heard, or undone by the refusal, where each order stays shown as it ought to be. -/
theorem updateOrderStatus_keeps_iff {status : Option OrderStatus} {code : String}
    {committedLater : Bool} :
    Keeps cfg board (.updateOrderStatus requester target status code committedLater) ↔
      ∀ order moved, statusChange cfg board requester target status = .ok (order, moved) →
        if mayRecord requester moved then HeardMove order.status moved
        else committedLater = true → order.status ≠ .assigned := by
  unfold Keeps
  simp only [emitted, step]
  cases passes : statusChange cfg board requester target status with
  | error failure =>
    -- Refused before anything is written, it leaves everything as it was.
    rw [updateOrderStatus_refused passes]
    simp only [afterRefusedStatus, passes]
    refine ⟨fun _ order moved there => ?_, fun _ _ => rfl⟩
    cases there
  | ok checked =>
    obtain ⟨order, moved⟩ := checked
    obtain ⟨rfl, found, allowed, moves⟩ := statusChange_ok passes
    simp only [Except.ok.injEq, Prod.mk.injEq, and_imp, forall_apply_eq_imp_iff, forall_eq']
    have result : updateOrderStatus cfg board requester target (some moved) code =
        if mayRecord requester moved then .ok ((board.changeOrder target
          (fun order => order.statusUpdated cfg board moved code) fun _ => statusUpdated_id ..).logged
          target order.status moved requester.username)
        else .error .arrivalDriverOnly := by
      unfold updateOrderStatus
      rw [passes]
      show (require (mayRecord requester moved) _ >>= _) = _
      cases mayRecord requester moved <;> rfl
    rw [result]
    by_cases may : mayRecord requester moved = true
    · -- The move is made, and said.
      rw [if_pos may, if_pos may]
      have standing := @standing_statusUpdated cfg board order moved code moves
      have there : ((board.changeOrder target (fun order => order.statusUpdated cfg board moved code)
          fun _ => statusUpdated_id ..).logged target order.status moved requester.username).order
          target = some (order.statusUpdated cfg board moved code) := by
        refine (board.order_changeOrder target _ (fun _ => statusUpdated_id ..) target).trans ?_
        rw [if_pos rfl, found, Option.map_some]
      have named : (order.statusUpdated cfg board moved code).id = target :=
        (statusUpdated_id ..).trans (id_of_found found)
      have status_is : (order.statusUpdated cfg board moved code).status = moved :=
        congrArg Standing.status standing
      simp only [announced, Board.statusUpdated, there, Option.toList_some, List.map_cons, List.map_nil,
        named, status_is]
      refine (keeps_changeOrder_iff (fun _ => statusUpdated_id ..) found rfl ?_).trans ?_
      · intro id other event listed shown
        rw [List.mem_singleton.mp listed]
        exact about_statusUpdated other shown
      · exact (heard_moved_iff status_is (congrArg Standing.assignedTo standing)).trans
          (heardMove_iff allowed)
    · -- It is refused after the UPDATE, which is said to nobody and may be committed all the same.
      rw [if_neg may, if_neg may]
      simp only [announced, afterRefusedStatus, passes, List.foldl_nil]
      cases committedLater with
      | false => exact ⟨fun _ never => absurd never Bool.false_ne_true, fun _ _ => rfl⟩
      | true =>
        simp only [if_true, forall_const]
        refine (@keeps_changeOrder_iff board _ target order (.movedTo moved) (fun _ => rfl) [] found rfl
          fun _ _ _ none => absurd none List.not_mem_nil).trans ?_
        refine (@unheard_moved_iff order moved (order.movedTo moved) rfl rfl).trans ?_
        -- Nobody arrives but from where an order is assigned, or on the road.
        have arrival : moved ∈ arrivalStatuses := by
          by_contra elsewhere
          exact may (by simp [mayRecord, elsewhere])
        revert allowed arrival
        cases order.status <;> cases moved <;> decide

end Status

/-- A delivery closes an order that had arrived, which neither feed shows before or after. -/
theorem confirmDelivery_keeps (requester : Requester) (target : Nat) (proof : DeliveryProof) :
    Keeps cfg board (.confirmDelivery requester target proof) := by
  unfold Keeps
  simp only [emitted, step]
  cases result : confirmDelivery cfg board requester target proof with
  | error failure =>
    intro id
    simp only [announced, List.foldl_nil, afterRefusedProof]
    split
    · -- A proof that is refused may count a guess, which no feed shows.
      let guessed : DispatchOrder → DispatchOrder := fun order =>
        { order with deliveryCodeAttempts := order.deliveryCodeAttempts + 1 }
      exact (@due_unmoved board _ (fun order => order.id = target) guessed rfl (fun _ => rfl)
        (fun _ => rfl) id).symm
    · rfl
  | ok written =>
    obtain ⟨_, -, order, found, was, -, same⟩ := confirmDelivery_accepted.mp result
    have orders : written.orders = (board.changeOrder target (fun order => order.confirmed cfg board)
        fun _ => rfl).orders := (congrArg Board.orders same).symm
    have there : written.order target = some (order.confirmed cfg board) := by
      unfold Board.order
      rw [orders]
      refine (board.order_changeOrder target (·.confirmed cfg board) (fun _ => rfl) target).trans ?_
      rw [if_pos rfl, found, Option.map_some]
    -- Only what has arrived is delivered, and arrived orders are in neither feed.
    have arrived : order.status = .arrived := by
      simpa [deliverableFrom] using List.contains_iff_mem.mp was
    have own : order.id = target := id_of_found found
    have named : (order.confirmed cfg board).id = target := own
    simp only [announced, Board.statusUpdated, there, Option.toList_some, List.map_cons, List.map_nil,
      named]
    refine (keeps_changeOrder_iff _ found orders ?_).mpr ?_
    · intro id other event listed shown
      rw [List.mem_singleton.mp listed]
      exact about_statusUpdated other shown
    · have closed : (order.confirmed cfg board).status = .delivered := rfl
      rw [due_elsewhere (by rw [arrived]; decide) (by rw [arrived]; decide),
        due_elsewhere (by rw [closed]; decide) (by rw [closed]; decide)]
      simp [Showing.heard, Showing.nothing]

section Offers

variable {requester : Requester}

/-- Events nobody listens to. -/
theorem heard_offered (id : Nat) (rows : List ListedOrder) (shown : Showing) :
    (rows.map SocketEvent.orderOffered).foldl (Showing.heard id) shown = shown := by
  -- Event by event, the board stays as it is.
  induction rows generalizing shown with
  | nil => rfl
  | cons row rest ih => exact ih shown

/-- An order that is offered goes on being shown among those that wait. -/
theorem offerOrders_keeps_iff {orderIds : List Nat} {driverName : String} {minutes : Option ℚ} :
    Keeps cfg board (.offerOrders requester orderIds driverName minutes) ↔
      ∀ written, offerOrders board requester orderIds driverName minutes ≠ .ok written := by
  refine (keeps_announced rfl rfl).trans (forall_congr' fun written => forall_congr' fun done => ?_)
  refine iff_false_intro fun keeps => ?_
  obtain ⟨-, some_asked, driver, -, -, all, -, same⟩ := offerOrders_accepted.mp done
  cases orderIds with
  | nil => cases some_asked
  | cons first rest =>
    obtain ⟨order, listed, own, was⟩ := board.orders.passing_of_length all List.mem_cons_self
    have found : board.order first = some order := Table.find?_eq_some.mpr ⟨listed, own⟩
    have shown := keeps first
    rw [heard_offered, due_of_found found, due_pending (of_decide_eq_true was)] at shown
    -- It does not wait any more.
    have orders := congrArg (fun board : Board => board.orders.rows) same.symm
    rw [due_written orders fun _ => rfl, found, Option.map_some, Option.getD_some,
      if_pos (by rw [own]; simp)] at shown
    cases shown

/-- An order that is accepted joins what is in flight, and its row is sent to nobody. -/
theorem acceptOffer_keeps_iff {target : Nat} :
    Keeps cfg board (.acceptOffer requester target) ↔
      ∀ written, acceptOffer board requester target ≠ .ok written := by
  refine (keeps_announced rfl rfl).trans (forall_congr' fun written => forall_congr' fun done => ?_)
  refine iff_false_intro fun keeps => ?_
  obtain ⟨-, order, found, ⟨⟨was, -⟩, -⟩, same⟩ := acceptOffer_accepted.mp done
  have shown := keeps target
  -- An update to assigned moves no order that is not shown: the board waits for the row.
  have silent : Showing.nothing.heard target (.orderStatusUpdated target .assigned) = .nothing :=
    if_neg fun its => its.2 rfl
  rw [due_of_found found, due_elsewhere (by rw [was]; decide) (by rw [was]; decide), List.foldl_cons,
    silent, List.foldl_nil] at shown
  have orders := congrArg (fun board : Board => board.orders.rows) same.symm
  rw [due_written orders fun _ => rfl, found, Option.map_some, Option.getD_some,
    if_pos (decide_eq_true (id_of_found found))] at shown
  -- So the order is missing where it should be shown.
  exact absurd (congrArg Showing.drivers shown) (List.cons_ne_nil _ _).symm

/-- An order that is declined waits again, and its row is sent to nobody. -/
theorem declineOffer_keeps_iff {target : Nat} {reason : Option String} :
    Keeps cfg board (.declineOffer requester target reason) ↔
      ∀ written, declineOffer board requester target reason ≠ .ok written := by
  refine (keeps_announced rfl rfl).trans (forall_congr' fun written => forall_congr' fun done => ?_)
  refine iff_false_intro fun keeps => ?_
  obtain ⟨-, order, found, ⟨was, -⟩, same⟩ := declineOffer_accepted.mp done
  have shown := keeps target
  rw [due_of_found found, due_elsewhere (by rw [was]; decide) (by rw [was]; decide)] at shown
  have orders := congrArg (fun board : Board => board.orders.rows) same.symm
  rw [due_written orders fun _ => rfl, found, Option.map_some, Option.getD_some,
    if_pos (decide_eq_true (id_of_found found))] at shown
  -- The order should wait in the feed, and nobody was told.
  cases shown

/-- An order whose offer lapses waits again, and nothing is sent at all. -/
theorem expireJobOffers_keeps_iff :
    Keeps cfg board .expireJobOffers ↔ ∀ order ∈ board.orders.rows, board.lapsed order = false := by
  have written : ∀ id, (expireJobOffers board).due id = ((board.order id).map fun order =>
      (if board.lapsed order then order.released else order).due).getD .nothing :=
    due_written rfl fun _ => rfl
  constructor
  · intro keeps order listed
    have found : board.order order.id = some order := Table.find?_eq_some.mpr ⟨listed, rfl⟩
    have shown : board.due order.id = (expireJobOffers board).due order.id := keeps order.id
    rw [written, found, Option.map_some, Option.getD_some, due_of_found found] at shown
    -- An offer that has lapsed is released, and should be shown as waiting.
    by_contra lapsed
    rw [Bool.not_eq_false] at lapsed
    have was : order.status = .offered := by
      simp only [Board.lapsed, Bool.and_eq_true, decide_eq_true_eq] at lapsed
      exact lapsed.1
    rw [if_pos lapsed, due_elsewhere (by rw [was]; decide) (by rw [was]; decide)] at shown
    cases shown
  · intro stands id
    show board.due id = (expireJobOffers board).due id
    rw [written]
    unfold Board.due
    cases found : board.order id with
    | none => rfl
    | some order =>
      -- Where nothing has lapsed no row is written.
      rw [Option.map_some, Option.map_some, stands order (Table.find?_eq_some.mp found).1]
      rfl

end Offers

section Runs

variable {requester : Requester}

/-- Of the orders that are handed to a run's driver none waits, and none is in flight with anybody else. -/
def HandsOverKnown (board : Board) (chosen : DispatchOrder → Bool) (driver : Option String) : Prop :=
  ∀ name, Payment.present driver = some name →
    ∀ order ∈ board.orders.rows, chosen order = true →
      order.status ≠ .pending ∧ (order.status = .assigned → order.assignedTo = some name)

/-- An order taken by a driver is due as before only where it was theirs, or is in neither feed. -/
theorem due_takenBy_iff {order : DispatchOrder} {name : String} :
    order.due = (order.takenBy name).due ↔
      order.status ≠ .pending ∧ (order.status = .assigned → order.assignedTo = some name) := by
  -- An order that waits joins those in flight; one in flight is shown under its driver; the others are in no feed.
  by_cases pending : order.status = .pending
  · have taken : (order.takenBy name).status = .assigned := if_pos pending
    rw [due_pending pending, due_assigned taken]
    exact ⟨fun same => (nomatch congrArg Showing.waiting same), fun both => absurd pending both.1⟩
  · have taken : (order.takenBy name).status = order.status := if_neg pending
    by_cases assigned : order.status = .assigned
    · rw [due_assigned assigned, due_assigned (taken.trans assigned)]
      simp [assigned, DispatchOrder.takenBy]
    · rw [due_elsewhere pending assigned, due_elsewhere (by rwa [taken]) (by rwa [taken])]
      simp [pending, assigned]

/-- Handing orders to a run's driver, of which nothing is said, has to change nothing that is due. -/
theorem handedOver_keeps_iff {planned : Board} {chosen : DispatchOrder → Bool} {driver : Option String}
    (same : planned.orders = board.orders) :
    (∀ id, board.due id = (planned.handedOver chosen driver).due id) ↔
      HandsOverKnown board chosen driver := by
  unfold HandsOverKnown
  cases named : Payment.present driver with
  | none =>
    -- Without a driver nothing is written.
    have kept : (planned.handedOver chosen driver).orders = board.orders := by
      unfold Board.handedOver
      rw [named]
      exact same
    exact ⟨fun _ _ none => (nomatch none), fun _ id => (due_same kept id).symm⟩
  | some name =>
    have written := @due_written board (planned.handedOver chosen driver) chosen
      (fun order => order.takenBy name) (handedOver_rows same named) fun _ => rfl
    constructor
    · rintro keeps _ ⟨⟩ order listed picked
      -- Each order that is taken is asked about by its own id.
      have found : board.order order.id = some order := Table.find?_eq_some.mpr ⟨listed, rfl⟩
      have shown := keeps order.id
      rw [written, found, Option.map_some, Option.getD_some, if_pos picked, due_of_found found] at shown
      exact due_takenBy_iff.mp shown
    · intro known id
      rw [written]
      unfold Board.due
      cases found : board.order id with
      | none => rfl
      | some order =>
        rw [Option.map_some, Option.map_some]
        split
        · rename_i picked
          rw [due_takenBy_iff.mpr (known name rfl order (Table.find?_eq_some.mp found).1 picked)]
        · rfl

/-- A planned run hands orders over without a word of it. -/
theorem createTrip_keeps_iff {orderIds : List Nat} {driver : Option String} {vehicle : Option Nat} :
    Keeps cfg board (.createTrip requester orderIds driver vehicle) ↔
      ∀ written, createTrip cfg board requester orderIds driver vehicle = .ok written →
        HandsOverKnown board (fun order => orderIds.contains order.id) driver := by
  -- Planning a run emits nothing, so the orders it hands over have to look the same.
  refine (keeps_announced rfl rfl).trans (forall_congr' fun written => forall_congr' fun done => ?_)
  obtain ⟨-, -, -, -, -, -, -, -, rfl⟩ := createTrip_accepted.mp done
  exact handedOver_keeps_iff rfl

/-- So does a run that changes hands. -/
theorem updateTrip_keeps_iff {tripId : Nat} {driver : Option (Option String)} {vehicle : Option Nat}
    {status : Option TripStatus} :
    Keeps cfg board (.updateTrip requester tripId driver vehicle status) ↔
      ∀ written, updateTrip board requester tripId driver vehicle status = .ok written →
        ∀ trip, board.trip tripId = some trip →
          HandsOverKnown board (board.onTrip tripId) (driver.getD trip.driverUsername) := by
  -- Changing a run emits nothing, so the orders it hands over have to look the same.
  refine (keeps_announced rfl rfl).trans (forall_congr' fun written => forall_congr' fun done => ?_)
  obtain ⟨-, -, current, there, -, -, -, -, rfl⟩ := updateTrip_accepted.mp done
  simp only [there, Option.some.injEq, forall_eq']
  exact handedOver_keeps_iff rfl

/-- What is said of an order when a stop of it is done leaves it among those that wait. -/
theorem stopDone_keeps_iff {stop : TripStop}
    (written : ∀ id, later.order id = if id = stop.orderId then
      (board.order id).map (.movedTo (stopCompletionOrderStatus stop.kind)) else board.order id) :
    (∀ id, (board.stopUpdated stop (some .done)).foldl (Showing.heard id) (board.due id) =
        later.due id) ↔
      ∀ order, board.order stop.orderId = some order → order.status ≠ .pending := by
  unfold Board.stopUpdated
  rw [if_pos rfl]
  cases found : board.order stop.orderId with
  | none =>
    -- A stop of an order that is gone says nothing.
    refine ⟨fun _ _ none => (nomatch none), fun _ id => ?_⟩
    unfold Board.due
    rw [written]
    split
    · rename_i own
      rw [own, found]
      rfl
    · rfl
  | some order =>
    simp only [Option.some.injEq, forall_eq', Option.toList_some, List.flatMap_cons, List.flatMap_nil,
      List.append_nil]
    -- Finishing a stop moves its order to picked up or delivered, and neither feed waits for those.
    have completes : stopCompletionOrderStatus stop.kind ≠ .pending ∧
        stopCompletionOrderStatus stop.kind ≠ .assigned := by
      cases stop.kind <;> decide
    split
    · -- The order was there already, and nothing is said.
      rename_i already
      refine (@keeps_change_iff board later _ order _ [] found written
        fun _ _ _ none => absurd none List.not_mem_nil).trans ?_
      refine (@unheard_moved_iff order (stopCompletionOrderStatus stop.kind)
        (order.movedTo (stopCompletionOrderStatus stop.kind)) rfl rfl).trans ?_
      simp [already, completes.1, completes.2]
    · refine (keeps_change_iff found written fun id other event listed shown => ?_).trans ?_
      · rw [List.mem_singleton.mp listed]
        exact about_statusUpdated other shown
      · refine (@heard_moved_iff _ order (stopCompletionOrderStatus stop.kind)
          (order.movedTo (stopCompletionOrderStatus stop.kind)) rfl rfl).trans ?_
        simp [completes.1, completes.2]

/-- A stop that is done takes its order out of what is in flight, and out of nothing else. -/
theorem updateStop_keeps_iff {stopId : Nat} {status : Option StopStatus} {reason : Option String} :
    Keeps cfg board (.updateStop requester stopId status reason) ↔
      ∀ stop trip order, stopChange cfg board requester stopId status reason = .ok (stop, trip, .done) →
        board.order stop.orderId = some order → order.status ≠ .pending := by
  refine (keeps_announced rfl rfl).trans ?_
  cases passes : stopChange cfg board requester stopId status reason with
  | error failure =>
    refine ⟨fun _ _ _ _ there => (nomatch there), fun _ written done => ?_⟩
    unfold updateStop at done
    rw [passes] at done
    cases done
  | ok checked =>
    obtain ⟨stop, trip, next⟩ := checked
    obtain ⟨written, done⟩ := updateStop_of_passes passes
    obtain ⟨_, _, _, same, orders, -⟩ := updateStop_order done
    cases same.symm.trans passes
    obtain ⟨there, -⟩ := stopChange_ok passes
    obtain rfl := stopChange_asked passes
    have only : ∀ sent : Board → List SocketEvent,
        (∀ other, updateStop cfg board requester stopId (some next) reason = .ok other →
          ∀ id, (sent other).foldl (Showing.heard id) (board.due id) = other.due id) ↔
        ∀ id, (sent written).foldl (Showing.heard id) (board.due id) = written.due id := by
      intro sent
      refine ⟨fun each => each written done, fun each other also => ?_⟩
      cases also.symm.trans done
      exact each
    rw [only]
    simp only [there, Option.toList_some, List.flatMap_cons, List.flatMap_nil, List.append_nil,
      List.foldl_append]
    -- Nobody listens to what is said about the run.
    show (∀ id, (board.stopUpdated stop (some next)).foldl (Showing.heard id) (board.due id) =
      written.due id) ↔ _
    by_cases is_done : next = .done
    · subst is_done
      simp only [true_and] at orders
      refine (stopDone_keeps_iff orders).trans
        ⟨fun each other run order same => ?_, fun each order => each stop trip order rfl⟩
      cases same
      exact each order
    -- A stop that is not finished moves no order, so nothing becomes due.
    · have unmoved : ∀ id, written.due id = board.due id := by
        intro id
        unfold Board.due
        rw [orders, if_neg fun both => is_done both.1]
      have silent : board.stopUpdated stop (some next) = [] := if_neg fun same =>
        is_done (Option.some.inj same)
      rw [silent]
      refine ⟨fun _ other run order same => ?_, fun _ id => (unmoved id).symm⟩
      cases same
      exact absurd rfl is_done

end Runs

/-- The live board hears of everything an event does to the two feeds. -/
def Relayed (cfg : DispatchConfig) (board : Board) : DispatchEvent → Prop
  -- Bookings, offers and their answers are sent to nobody who listens, so they have to be refused.
  | .publicCreateOrder request => ∀ written, publicCreateOrder board request ≠ .ok written
  | .offerOrders requester orderIds driverName minutes =>
    ∀ written, offerOrders board requester orderIds driverName minutes ≠ .ok written
  | .acceptOffer requester id => ∀ written, acceptOffer board requester id ≠ .ok written
  | .declineOffer requester id reason => ∀ written, declineOffer board requester id reason ≠ .ok written
  | .expireJobOffers => ∀ order ∈ board.orders.rows, board.lapsed order = false
  | .updateOrderStatus requester id status _ committedLater =>
    ∀ order moved, statusChange cfg board requester id status = .ok (order, moved) →
      if mayRecord requester moved then HeardMove order.status moved
      else committedLater = true → order.status ≠ .assigned
  | .createTrip requester orderIds driverUsername vehicleId =>
    ∀ written, createTrip cfg board requester orderIds driverUsername vehicleId = .ok written →
      HandsOverKnown board (fun order => orderIds.contains order.id) driverUsername
  | .updateTrip requester tripId driverUsername vehicleId status =>
    ∀ written, updateTrip board requester tripId driverUsername vehicleId status = .ok written →
      ∀ trip, board.trip tripId = some trip →
        HandsOverKnown board (board.onTrip tripId) (driverUsername.getD trip.driverUsername)
  | .updateStop requester stopId status reason =>
    ∀ stop trip order, stopChange cfg board requester stopId status reason = .ok (stop, trip, .done) →
      board.order stop.orderId = some order → order.status ≠ .pending
  | _ => True

/-- What is relayed is what keeps every order shown as it ought to be. -/
theorem keeps_iff_relayed (cfg : DispatchConfig) (board : Board) (event : DispatchEvent) :
    Keeps cfg board event ↔ Relayed cfg board event := by
  cases event with
  -- A booking by the desk is told to the board, and a customer's own is not.
  | createOrder requester request => exact iff_true_intro (createOrder_keeps requester request)
  | publicCreateOrder request => exact publicCreateOrder_keeps_iff
  | placeOneOrder requester target pickup delivery pricing =>
    refine iff_true_intro ((@keeps_announced _ _ _ _ (fun _ => []) ?_ rfl).mpr fun written done id => ?_)
    · unfold announced
      split <;> rfl
    · obtain ⟨-, -, _, -, -, rfl⟩ := placeOneOrder_accepted.mp done
      -- Repricing touches neither an order's status nor its driver.
      let repriced : DispatchOrder → DispatchOrder := fun order => { order with
        toOrder := order.toOrder.placed pricing, pickup := some pickup, delivery := some delivery }
      refine (@due_unmoved board _ (fun order => order.id = target) repriced rfl
        (fun _ => placed_id _ _) ?_ id).symm
      intro order
      have same : (order.toOrder.placed pricing).status = order.status ∧
          (order.toOrder.placed pricing).assignedTo = order.assignedTo := by
        unfold Order.placed
        split
        · exact ⟨rfl, rfl⟩
        · split <;> exact ⟨rfl, rfl⟩
      simp [DispatchOrder.due, repriced, same]
  | assignOrderBundle requester orderIds driverName =>
    exact iff_true_intro (assignOrderBundle_keeps requester orderIds driverName)
  | reassignOrder requester id driverName =>
    exact iff_true_intro (reassignOrder_keeps requester id driverName)
  | updateOrderStatus requester id status code committedLater => exact updateOrderStatus_keeps_iff
  | confirmDelivery requester id proof =>
    exact iff_true_intro (confirmDelivery_keeps requester id proof)
  | offerOrders requester orderIds driverName minutes => exact offerOrders_keeps_iff
  | acceptOffer requester id => exact acceptOffer_keeps_iff
  | declineOffer requester id reason => exact declineOffer_keeps_iff
  | expireJobOffers => exact expireJobOffers_keeps_iff
  | createTrip requester orderIds driver vehicle => exact createTrip_keeps_iff
  | updateTrip requester tripId driver vehicle status => exact updateTrip_keeps_iff
  | updateStop requester stopId status reason => exact updateStop_keeps_iff
  | reportIncident driver orderId => exact iff_true_intro fun _ => rfl
  -- A payment writes no column that the board shows.
  | payment id status method collectedAt settledAt =>
    let paid : DispatchOrder → DispatchOrder := fun order => { order with
      paymentStatus := status, paymentMethod := method
      cashCollectedAt := collectedAt, cashSettledAt := settledAt }
    exact iff_true_intro fun other => (@due_unmoved board _ (fun order => order.id = id) paid rfl
      (fun _ => rfl) (fun _ => rfl) other).symm
  | elsewhere users vehicles driverDocuments vehicleDocuments elapsed =>
    exact iff_true_intro fun _ => rfl

/-- From a fresh fetch on, the live board mirrors the server exactly while everything is relayed to it. -/
theorem liveBoard_mirrors_iff (cfg : DispatchConfig) (board : Board) (events : List DispatchEvent) :
    Throughout (Watched.step cfg) Watched.Mirrors (.fetched board) events ↔
      Along (Watched.step cfg) (fun watched => Relayed cfg watched.board) (.fetched board) events := by
  -- A fresh fetch mirrors the board, and each event keeps it so exactly where it is relayed.
  apply @throughout_iff_of_invariant _ _ _ Watched.Mirrors
  · exact fun _ mirrors => mirrors
  · intro watched event mirrors after
    exact (keeps_iff_relayed cfg watched.board event).mp ((mirrors_step_iff mirrors).mp after)
  · intro watched event mirrors relayed
    exact (mirrors_step_iff mirrors).mpr ((keeps_iff_relayed cfg watched.board event).mpr relayed)
  · exact mirrors_fetched board

/-- A dispatcher cancels an order that waits. -/
def cancelledWaiting : List DispatchEvent :=
  [.updateOrderStatus aDispatcher 1 (some .cancelled) "4821" false]

/-- The board goes on listing it among those that wait for a driver. -/
theorem cancelled_still_listed : ¬ Throughout (Watched.step .kigali) Watched.Mirrors
    (.fetched oneWaiting) cancelledWaiting := by
  -- At the end the server lists no waiting order, and the board still has one.
  intro throughout
  have active := (throughout cancelledWaiting (List.prefix_refl _)).active 1
  revert active
  decide +kernel

end Freight.Dispatch
