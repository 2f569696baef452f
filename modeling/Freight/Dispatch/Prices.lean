import Freight.Dispatch.Readings
import Freight.Order.Balance
import Freight.Payment.Journey

/-! The price of an order nobody has paid for: its latest quote, and what has happened since. -/

namespace Freight.Dispatch

variable {cfg : DispatchConfig} {board later : Board} {event : DispatchEvent} {id : Nat}
  {order : DispatchOrder}

/-- The columns a price is made up of, and the one that says whether it may still change. -/
structure Purse where
  priceTotal : Option ℚ
  driverNet : Option ℚ
  detentionAmount : Option ℚ
  backfillCredit : Option ℚ
  paymentStatus : PaymentStatus

/-- The columns of an order that its price is made up of. -/
def purse (order : Order) : Purse where
  priceTotal := order.priceTotal
  driverNet := order.driverNet
  detentionAmount := order.detentionAmount
  backfillCredit := order.backfillCredit
  paymentStatus := order.paymentStatus

/-- The board, and the latest quote taken for each of its orders. -/
structure Quoted where
  board : Board
  quotes : Nat → Option Quote

/-- The quote a request takes, and for which order: a booking's, or a placement's that can be priced. -/
def quoteTaken (board : Board) : DispatchEvent → Option (Nat × Quote)
  -- A booking takes the quote it was priced at, under the serial it is given.
  | .createOrder requester request =>
    match createOrder board requester request with
    | .ok _ => request.pricing.toOption.map (board.orders.nextSerial, ·)
    | .error _ => none
  | .publicCreateOrder request =>
    match publicCreateOrder board request with
    | .ok _ => request.pricing.toOption.map (board.orders.nextSerial, ·)
    | .error _ => none
  -- A placement takes one only where it can be priced.
  | .placeOneOrder requester id pickup delivery pricing =>
    match placeOneOrder board requester id pickup delivery pricing with
    | .ok _ => pricing.toOption.map (id, ·)
    | .error _ => none
  | _ => none

/-- The events of a run in which no payment is pending or made, and no stop of a trip is worked. -/
def DispatchEvent.PricesOpen : DispatchEvent → Prop
  | .payment _ status _ _ _ => status ≠ .pending ∧ status ≠ .paid
  | .updateStop .. => False
  | _ => True

/-- An event of such a run. -/
abbrev OpenEvent := { event : DispatchEvent // event.PricesOpen }

/-- One event, with the quote it takes. -/
def quotedStep (cfg : DispatchConfig) (quoted : Quoted) (event : OpenEvent) : Quoted where
  board := step cfg quoted.board event.val
  quotes := match quoteTaken quoted.board event.val with
    | some (id, quote) => Function.update quoted.quotes id (some quote)
    | none => quoted.quotes

/-- What was added to an order since it was quoted, less what was given back. -/
def accrued (order : Order) : ℚ := orZero order.detentionAmount - orZero order.backfillCredit

/-- Every order's price and driver's share are its latest quote's, and what has accrued since. -/
def PricesStand (quoted : Quoted) : Prop :=
  ∀ id order, quoted.board.order id = some order → ∃ quote, quoted.quotes id = some quote ∧
    order.priceTotal = some (quote.totalAmount + accrued order.toOrder) ∧
    order.driverNet = some (quote.driverNet + accrued order.toOrder)

/-- An order is quoted anew only where nothing has accrued, on balance. -/
def QuotedFresh (quoted : Quoted) (event : OpenEvent) : Prop :=
  ∀ requester id pickup delivery priced,
    event.val = .placeOneOrder requester id pickup delivery (.ok priced) →
    dispatchRoles.contains requester.role = true → (pickup.isValid && delivery.isValid) = true →
    ∀ order, quoted.board.order id = some order → order.paymentCommitted = false →
      orZero order.detentionAmount = orZero order.backfillCredit

/-- Everything an event can do to what an order's price is made up of. -/
inductive Charges (board : Board) (event : DispatchEvent) (id : Nat) (order next : DispatchOrder) :
    Prop where
  /-- Nothing, and a delivered order stays delivered. -/
  | kept (same : purse next.toOrder = purse order.toOrder)
      (stays : order.status = .delivered → next.status = .delivered)
  /-- A payment fails, or is taken back. -/
  | payment (status : PaymentStatus) (open_ : status ≠ .pending ∧ status ≠ .paid)
      (same : purse next.toOrder = { purse order.toOrder with paymentStatus := status })
      (stands : next.status = order.status)
  /-- It is placed on the map, and priced anew. -/
  | placed (requester : Requester) (pickup delivery : Point) (priced : Quote)
      (by_ : event = .placeOneOrder requester id pickup delivery (.ok priced))
      (allowed : dispatchRoles.contains requester.role = true)
      (pinned : (pickup.isValid && delivery.isValid) = true)
      (open_ : order.paymentCommitted = false)
      (repriced : purse next.toOrder = purse (order.toOrder.repriced priced))
      (stands : next.status = order.status)
  /-- Its driver leaves the pickup, after a wait. -/
  | left (waited : Detention) (was : order.status ≠ .delivered)
      (charged : purse next.toOrder = purse (order.toOrder.pickupCharged waited))
  /-- It is delivered. -/
  | delivered (waited : Option Detention) (backfill : Option Order.Backfill)
      (was : order.status ≠ .delivered)
      (closed : next.toOrder = order.toOrder.delivered waited backfill)

/-- Nothing leaves a delivered order. -/
theorem canTransition_delivered (status : OrderStatus) : canTransition .delivered status = false := by
  -- The row of DELIVERED in the table is empty.
  cases status <;> rfl

/-- An order that is delivered is delivered after any change but a stop's. -/
theorem delivered_stays {old new : Standing} (change : Change cfg board id event old new)
    (open_ : event.PricesOpen) (was : old.status = .delivered) : new.status = .delivered := by
  -- Of the changes that are open, none starts from a delivered order and leads anywhere else.
  cases change with
  | kept | reassigned => exact was
  | assigned _ _ waiting | unassigned waiting | offered _ _ waiting | accepted _ waiting
  | released waiting | delivered _ _ waiting => first | rfl | (rw [waiting] at was; cases was)
  | updated _ _ _ _ _ allowed =>
    rw [was] at allowed
    exact absurd (canTransition_delivered _) (by rw [allowed]; simp)
  | taken driver => simp [was]
  | stopDone _ _ _ _ _ _ _ _ named =>
    subst named
    exact open_.elim

/-- The order's price is made up of what it was made up of, and no order is new. -/
structure SamePurse (board later : Board) (id : Nat) : Prop where
  same : ∀ order next, board.order id = some order → later.order id = some next →
    purse next.toOrder = purse order.toOrder
  noneNew : board.order id = none → later.order id = none

/-- An event that writes no order. -/
theorem samePurse_same (same : later.orders = board.orders) : SamePurse board later id := by
  -- What is read off the row is read off the same row.
  have found : later.order id = board.order id := by
    unfold Board.order
    rw [same]
  refine ⟨fun order next before after => ?_, fun absent => found.trans absent⟩
  rw [found, before] at after
  rw [Option.some.inj after]

/-- An UPDATE that touches no money. -/
theorem samePurse_updateWhere {chosen : DispatchOrder → Bool} {change : DispatchOrder → DispatchOrder}
    (written : later.orders.rows = board.orders.rows.map fun order =>
      if chosen order then change order else order)
    (same : ∀ order, purse (change order).toOrder = purse order.toOrder)
    (keeps : ∀ order : DispatchOrder, (change order).id = order.id) : SamePurse board later id := by
  -- The row is looked up after the UPDATE, chosen or not, with its money as it was.
  have found := order_of_written written keeps id
  refine ⟨fun order next before after => ?_, fun absent => by rw [found, absent, Option.map_none]⟩
  rw [found, before, Option.map_some, Option.some.injEq] at after
  rw [← after]
  split
  · exact same order
  · rfl

/-- The events that neither add an order nor write to the money of one, nor to its payment. -/
def DispatchEvent.Moneyless : DispatchEvent → Prop
  | .createOrder .. | .publicCreateOrder .. | .placeOneOrder .. | .updateOrderStatus ..
  | .confirmDelivery .. | .updateStop .. | .payment .. => False
  | _ => True

/-- Such an event leaves every order's purse as it is. -/
theorem samePurse_step (moneyless : event.Moneyless) : SamePurse board (step cfg board event) id := by
  -- What a price is made up of does not depend on where the order stands.
  have standing : event.Standing := by cases event <;> exact moneyless
  have same : SameReading (fun order => purse order.toOrder) board (step cfg board event) id :=
    sameReading_step (fun _ _ _ _ _ => rfl) standing
  unfold SameReading at same
  refine ⟨fun order next before after => ?_, fun absent => ?_⟩
  · rw [before, after] at same
    exact Option.some.inj same
  · rw [absent] at same
    exact Option.map_eq_none_iff.mp same

/-- An event that leaves what a price is made up of as it is. -/
theorem charges_kept (open_ : event.PricesOpen) (found : board.order id = some order)
    (same : SamePurse board (step cfg board event) id) :
    ∃ next, (step cfg board event).order id = some next ∧ Charges board event id order next := by
  -- The order is still there, with the same money; and if delivered before, it is so still.
  obtain ⟨next, there, change⟩ := step_changes cfg event found
  exact ⟨next, there, .kept (same.same order next found there) fun was => delivered_stays change open_ was⟩

/-- A placement prices its order anew, unless it is refused or cannot be priced. -/
theorem placeOneOrder_charges {requester : Requester} {target : Nat} {pickup delivery : Point}
    {pricing : Except PricingError Quote} (found : board.order id = some order)
    (event_is : event = .placeOneOrder requester target pickup delivery pricing) :
    ∃ next, (step cfg board event).order id = some next ∧ Charges board event id order next := by
  subst event_is
  simp only [step]
  cases done : placeOneOrder board requester target pickup delivery pricing with
  | error failure => exact ⟨order, found, .kept rfl fun was => was⟩
  | ok later =>
    obtain ⟨allowed, pinned, row, there, open_, rfl⟩ := placeOneOrder_accepted.mp done
    simp only [committed, Board.order_changeOrder, found]
    split
    · rename_i own
      subst own
      obtain rfl := Option.some.inj (there.symm.trans found)
      have uncommitted : row.paymentCommitted = false := by simpa using open_
      refine ⟨_, rfl, ?_⟩
      cases pricing with
      | error refusal =>
        -- The order is on the map now, and keeps its estimate.
        have same : row.toOrder.placed (.error refusal) = row.toOrder := by
          unfold Order.placed
          split <;> rfl
        exact .kept (by simp [same]) (by simp [same])
      | ok priced =>
        have repriced : row.toOrder.placed (.ok priced) = row.toOrder.repriced priced := by
          unfold Order.placed
          rw [if_neg (by simp [uncommitted])]
        exact .placed requester pickup delivery priced rfl allowed pinned uncommitted
          (by simp [repriced]) (by simp [repriced, Order.repriced])
    · exact ⟨order, rfl, .kept rfl fun was => was⟩

/-- Issuing a code touches no money and no status. -/
theorem codeIssued_money (order : DispatchOrder) (code : String) :
    (order.codeIssued cfg code).toOrder = order.toOrder := by
  -- A code goes into columns of its own.
  simp only [DispatchOrder.codeIssued]
  split <;> rfl

/-- A status update that is made charges for the wait at the pickup it ends, if it ends one. -/
theorem statusUpdated_charges {status : OrderStatus} (code : String)
    (allowed : canTransition order.status status = true) (moves : order.toOrder.movesTo status = true) :
    Charges board event id order (order.statusUpdated cfg board status code) := by
  -- Nothing leads on from delivered.
  have undelivered : order.status ≠ .delivered := by
    intro was
    rw [was, canTransition_delivered] at allowed
    cases allowed
  -- Issuing a code leaves the money alone.
  have money : (order.statusUpdated cfg board status code).toOrder =
      order.toOrder.statusUpdated cfg.rateOf status (board.waitedSince order.id .atPickup) := by
    simp only [DispatchOrder.statusUpdated]
    split
    · exact codeIssued_money _ _
    · rfl
  have updated := money
  unfold Order.statusUpdated at updated
  rw [if_pos moves] at updated
  simp only at updated
  split at updated
  · -- The wait at the pickup is over, and is charged for where it is worth something.
    cases waited : order.toOrder.detentionForOrder cfg.rateOf (board.waitedSince order.id .atPickup) with
    | none =>
      rw [waited] at updated
      exact .kept (by rw [updated]; rfl) fun was => absurd was undelivered
    | some wait =>
      rw [waited] at updated
      exact .left wait undelivered (by rw [updated]; rfl)
  · exact .kept (by rw [updated]; rfl) fun was => absurd was undelivered

/-- A status update charges for the wait it ends, and a bare UPDATE left behind for none. -/
theorem updateOrderStatus_charges {requester : Requester} {target : Nat} {asked : Option OrderStatus}
    {code : String} {committedLater : Bool} (found : board.order id = some order)
    (event_is : event = .updateOrderStatus requester target asked code committedLater) :
    ∃ next, (step cfg board event).order id = some next ∧ Charges board event id order next := by
  have open_ : event.PricesOpen := by
    subst event_is
    trivial
  cases done : updateOrderStatus cfg board requester target asked code with
  | ok later =>
    have stepped : step cfg board event = later := by
      subst event_is
      simp only [step, done]
    obtain ⟨row, status, passes, -, result⟩ := updateOrderStatus_accepted.mp done
    obtain ⟨rfl, there, allowed, moves⟩ := statusChange_ok passes
    have after := board.order_changeOrder target (fun order => order.statusUpdated cfg board status code)
      (fun _ => statusUpdated_id ..) id
    rw [found, Option.map_some] at after
    rw [stepped, ← result]
    -- The update writes one row, and the others keep their purse.
    by_cases own : id = target
    · subst own
      rw [if_pos rfl] at after
      obtain rfl := Option.some.inj (there.symm.trans found)
      exact ⟨_, after, statusUpdated_charges code allowed moves⟩
    · rw [if_neg own] at after
      exact ⟨order, after, .kept rfl fun was => was⟩
  | error failure =>
    refine charges_kept open_ found ?_
    subst event_is
    simp only [step, done]
    -- A bare UPDATE writes the status, and no column of the purse.
    unfold afterRefusedStatus
    split
    · split
      · exact samePurse_updateWhere rfl (fun _ => rfl) fun _ => rfl
      · exact samePurse_same rfl
    · exact samePurse_same rfl

/-- A confirmation settles the wait and the credit with the delivery. -/
theorem confirmDelivery_charges {requester : Requester} {target : Nat} {proof : DeliveryProof}
    (found : board.order id = some order)
    (event_is : event = .confirmDelivery requester target proof) :
    ∃ next, (step cfg board event).order id = some next ∧ Charges board event id order next := by
  have open_ : event.PricesOpen := by
    subst event_is
    trivial
  cases done : confirmDelivery cfg board requester target proof with
  | ok later =>
    have stepped : step cfg board event = later := by
      subst event_is
      simp only [step, done]
    obtain ⟨_, -, row, there, was, -, result⟩ := confirmDelivery_accepted.mp done
    have after := board.order_changeOrder target (fun order => order.confirmed cfg board)
      (fun _ => rfl) id
    rw [found, Option.map_some] at after
    rw [stepped, ← result]
    by_cases own : id = target
    · subst own
      rw [if_pos rfl] at after
      obtain rfl := Option.some.inj (there.symm.trans found)
      -- Only an order that has arrived is closed.
      have arrived : row.status = .arrived := List.mem_singleton.mp (List.contains_iff_mem.mp was)
      exact ⟨_, after, .delivered _ _ (by rw [arrived]; simp) rfl⟩
    · rw [if_neg own] at after
      exact ⟨order, after, .kept rfl fun was => was⟩
  -- A refused confirmation counts a wrong code at most, and that is no charge.
  | error failure =>
    refine charges_kept open_ found ?_
    subst event_is
    simp only [step, done]
    unfold afterRefusedProof
    split
    · exact samePurse_updateWhere rfl (fun _ => rfl) fun _ => rfl
    · exact samePurse_same rfl

/-- A dispatcher's order is inserted at the price it was quoted. -/
theorem createOrder_row {requester : Requester} {request : NewOrder}
    (done : createOrder board requester request = .ok later) : ∃ priced, request.pricing = .ok priced ∧
      later.orders = board.orders.insert (request.row priced) fun _ => rfl := by
  -- Accepted, it is one INSERT of the priced row.
  obtain ⟨-, -, -, priced, quoted, rfl⟩ := createOrder_accepted.mp done
  exact ⟨priced, quoted, rfl⟩

/-- So is a customer's. -/
theorem publicCreateOrder_row {request : NewBooking}
    (done : publicCreateOrder board request = .ok later) : ∃ priced, request.pricing = .ok priced ∧
      later.orders = board.orders.insert (request.row priced) fun _ => rfl := by
  -- Accepted, it is one INSERT of the priced row.
  obtain ⟨-, priced, quoted, rfl⟩ := publicCreateOrder_accepted.mp done
  exact ⟨priced, quoted, rfl⟩

/-- An order is still there when another is inserted. -/
theorem order_insert {row : Nat → DispatchOrder} {own : ∀ serial, (row serial).id = serial}
    (same : later.orders = board.orders.insert row own) (found : board.order id = some order) :
    later.order id = some order := by
  -- An INSERT takes no id that is in use.
  unfold Board.order at found ⊢
  rw [same]
  exact Table.find?_insert_of_some found

/-- Whatever happens to an order of such a run, its price changes in one of these ways. -/
theorem step_charges (cfg : DispatchConfig) (event : OpenEvent) (found : board.order id = some order) :
    ∃ next, (step cfg board event.val).order id = some next ∧
      Charges board event.val id order next := by
  obtain ⟨event, open_⟩ := event
  -- Three events may charge or price; a payment may commit the price; the others leave it.
  cases event with
  | placeOneOrder => exact placeOneOrder_charges found rfl
  | updateOrderStatus => exact updateOrderStatus_charges found rfl
  | confirmDelivery => exact confirmDelivery_charges found rfl
  | payment target status method collected settled =>
    simp only [step, Board.order_changeOrder, found]
    split
    · exact ⟨_, rfl, .payment status open_ rfl rfl⟩
    · exact ⟨order, rfl, .kept rfl fun was => was⟩
  | createOrder requester request =>
    simp only [step]
    cases done : createOrder board requester request with
    | error failure => exact ⟨order, found, .kept rfl fun was => was⟩
    | ok later =>
      obtain ⟨priced, -, same⟩ := createOrder_row done
      exact ⟨order, order_insert same found, .kept rfl fun was => was⟩
  | publicCreateOrder request =>
    simp only [step]
    cases done : publicCreateOrder board request with
    | error failure => exact ⟨order, found, .kept rfl fun was => was⟩
    | ok later =>
      obtain ⟨priced, -, same⟩ := publicCreateOrder_row done
      exact ⟨order, order_insert same found, .kept rfl fun was => was⟩
  | updateStop => exact open_.elim
  | _ => exact charges_kept open_ found (samePurse_step trivial)

/-- A placement that passes its checks prices the order anew, and takes the quote it is priced at. -/
theorem placed_of_passes {requester : Requester} {pickup delivery : Point} {priced : Quote}
    (allowed : dispatchRoles.contains requester.role = true)
    (pinned : (pickup.isValid && delivery.isValid) = true) (found : board.order id = some order)
    (open_ : order.paymentCommitted = false) :
    quoteTaken board (.placeOneOrder requester id pickup delivery (.ok priced)) = some (id, priced) ∧
      ∃ next, (step cfg board (.placeOneOrder requester id pickup delivery (.ok priced))).order id =
        some next ∧ next.toOrder = order.toOrder.repriced priced := by
  -- Every check of the placement passes, so the row is written.
  have done : placeOneOrder board requester id pickup delivery (.ok priced) = .ok
      (board.changeOrder id
        (fun order => { order with
          toOrder := order.toOrder.placed (.ok priced), pickup := some pickup
          delivery := some delivery }) fun _ => placed_id _ _) := by
    exact placeOneOrder_accepted.mpr ⟨allowed, pinned, order, found, open_, rfl⟩
  refine ⟨by simp only [quoteTaken, done]; rfl, ?_⟩
  simp only [step, done, committed]
  refine ⟨_, (board.order_changeOrder id _ (fun _ => placed_id _ _) id).trans
    (by rw [if_pos rfl, found, Option.map_some]), ?_⟩
  unfold Order.placed
  rw [if_neg (by simp [open_])]

/-- A quote for an order that is there is taken by such a placement. -/
theorem passes_of_quoteTaken {event : DispatchEvent} {quote : Quote}
    (taken : quoteTaken board event = some (id, quote)) (found : board.order id = some order) :
    ∃ requester pickup delivery, event = .placeOneOrder requester id pickup delivery (.ok quote) ∧
      dispatchRoles.contains requester.role = true ∧ (pickup.isValid && delivery.isValid) = true ∧
      order.paymentCommitted = false := by
  have used : id ≠ board.orders.nextSerial := by
    -- The serial of a booking is above every id in use.
    obtain ⟨member, own⟩ := Table.find?_eq_some.mp found
    exact fun same => absurd (board.orders.lt_nextSerial member) (by rw [own, same]; exact lt_irrefl _)
  cases event with
  -- A booking is for a new serial.
  | createOrder requester request =>
    simp only [quoteTaken] at taken
    split at taken
    · obtain ⟨_, -, same⟩ := Option.map_eq_some_iff.mp taken
      exact absurd (Prod.mk.inj same).1.symm used
    · cases taken
  | publicCreateOrder request =>
    simp only [quoteTaken] at taken
    split at taken
    · obtain ⟨_, -, same⟩ := Option.map_eq_some_iff.mp taken
      exact absurd (Prod.mk.inj same).1.symm used
    · cases taken
  -- A placement is priced for the order that it pins.
  | placeOneOrder requester target pickup delivery pricing =>
    simp only [quoteTaken] at taken
    split at taken
    · rename_i later done
      obtain ⟨priced, quoted, same⟩ := Option.map_eq_some_iff.mp taken
      obtain ⟨rfl, rfl⟩ := Prod.mk.inj same
      cases pricing with
      | error refusal => cases quoted
      | ok priced' =>
        obtain rfl := Option.some.inj quoted
        obtain ⟨allowed, pinned, row, there, open_, -⟩ := placeOneOrder_accepted.mp done
        obtain rfl := Option.some.inj (there.symm.trans found)
        exact ⟨requester, pickup, delivery, rfl, allowed, pinned, by simpa using open_⟩
    · cases taken
  | _ => cases taken

/-- What is found under an id that was free is the row that was inserted, under the next serial. -/
theorem inserted_of_new {row : Nat → DispatchOrder} {own : ∀ serial, (row serial).id = serial}
    (same : later.orders = board.orders.insert row own) (absent : board.order id = none)
    {next : DispatchOrder} (after : later.order id = some next) :
    id = board.orders.nextSerial ∧ next = row id := by
  -- An id that was free before is the serial that was drawn.
  unfold Board.order at absent after
  rw [same] at after
  have named : next.id = id := (Table.find?_eq_some.mp after).2
  rcases Table.find?_insert_cases after with old | ⟨-, rfl⟩
  · rw [absent] at old
    cases old
  · rw [own] at named
    exact ⟨named.symm, by rw [named]⟩

/-- A new order is booked at the quote that is taken for it. -/
theorem booked_of_new (event : OpenEvent) (absent : board.order id = none) {next : DispatchOrder}
    (after : (step cfg board event.val).order id = some next) :
    ∃ priced, quoteTaken board event.val = some (id, priced) ∧
      (next.toOrder = .created id priced ∨ ∃ phone, next.toOrder = .booked id phone priced) := by
  obtain ⟨event, open_⟩ := event
  -- Anything but a booking leaves a free id free.
  have stays_free : ∀ later : Board, later.order id = some next →
      ¬ SamePurse board later id := fun later there samePurse => by
    rw [samePurse.noneNew absent] at there
    cases there
  have unmoved : ∀ (target : Nat) (change : DispatchOrder → DispatchOrder)
      (keeps : ∀ order, (change order).id = order.id),
      (board.changeOrder target change keeps).order id ≠ some next := fun target change keeps there => by
    rw [Board.order_changeOrder, absent] at there
    split at there <;> cases there
  cases event with
  -- The row that is new is the one that was inserted.
  | createOrder requester request =>
    simp only [step] at after
    cases done : createOrder board requester request with
    | error failure =>
      rw [done] at after
      exact absurd (samePurse_same rfl) (stays_free board after)
    | ok later =>
      rw [done] at after
      obtain ⟨priced, quoted, same⟩ := createOrder_row done
      obtain ⟨serial, rfl⟩ := inserted_of_new same absent after
      exact ⟨priced, by simp only [quoteTaken, done, quoted, ← serial]; rfl, .inl rfl⟩
  | publicCreateOrder request =>
    simp only [step] at after
    cases done : publicCreateOrder board request with
    | error failure =>
      rw [done] at after
      exact absurd (samePurse_same rfl) (stays_free board after)
    | ok later =>
      rw [done] at after
      obtain ⟨priced, quoted, same⟩ := publicCreateOrder_row done
      obtain ⟨serial, rfl⟩ := inserted_of_new same absent after
      exact ⟨priced, by simp only [quoteTaken, done, quoted, ← serial]; rfl, .inr ⟨_, rfl⟩⟩
  -- A placement changes an order and inserts none.
  | placeOneOrder requester target pickup delivery pricing =>
    simp only [step] at after
    cases done : placeOneOrder board requester target pickup delivery pricing with
    | error failure =>
      rw [done] at after
      exact absurd (samePurse_same rfl) (stays_free board after)
    | ok later =>
      rw [done] at after
      obtain ⟨-, -, row, -, -, rfl⟩ := placeOneOrder_accepted.mp done
      exact absurd after (unmoved _ _ _)
  | updateOrderStatus requester target asked code committedLater =>
    simp only [step] at after
    cases done : updateOrderStatus cfg board requester target asked code with
    | error failure =>
      rw [done] at after
      simp only [afterRefusedStatus] at after
      split at after
      · split at after
        · exact absurd after (unmoved _ _ _)
        · exact absurd (samePurse_same rfl) (stays_free board after)
      · exact absurd (samePurse_same rfl) (stays_free board after)
    | ok later =>
      rw [done] at after
      obtain ⟨row, status, -, -, rfl⟩ := updateOrderStatus_accepted.mp done
      exact absurd after (unmoved _ _ fun _ => statusUpdated_id ..)
  | confirmDelivery requester target proof =>
    simp only [step] at after
    cases done : confirmDelivery cfg board requester target proof with
    | error failure =>
      rw [done] at after
      simp only [afterRefusedProof] at after
      split at after
      · exact absurd after (unmoved _ _ _)
      · exact absurd (samePurse_same rfl) (stays_free board after)
    | ok later =>
      rw [done] at after
      obtain ⟨_, -, row, -, -, -, rfl⟩ := confirmDelivery_accepted.mp done
      exact absurd after (unmoved target (·.confirmed cfg board) fun _ => rfl)
  | payment target status method collected settled =>
    simp only [step] at after
    exact absurd after (unmoved _ _ _)
  | updateStop => exact open_.elim
  | _ =>
    refine absurd ?_ (stays_free _ after)
    exact samePurse_step trivial

/-- The price of an order stands, and may still be asked for; nothing is given back before the delivery. -/
structure Stands (order : Order) (quote : Quote) : Prop where
  total : order.priceTotal = some (quote.totalAmount + accrued order)
  net : order.driverNet = some (quote.driverNet + accrued order)
  credit : order.status ≠ .delivered → orZero order.backfillCredit = 0
  open_ : order.paymentCommitted = false

/-- Every order stands at the price of its latest quote. -/
def AllStand (quoted : Quoted) : Prop :=
  ∀ id order, quoted.board.order id = some order →
    ∃ quote, quoted.quotes id = some quote ∧ Stands order.toOrder quote

/-- A booking stands at its quote. -/
theorem stands_booked {order : Order} {priced : Quote}
    (booked : order = .created id priced ∨ ∃ phone, order = .booked id phone priced) :
    Stands order priced := by
  -- Neither way of booking has anything accrued yet.
  rcases booked with rfl | ⟨phone, rfl⟩
  · exact ⟨by simp [Order.created, accrued], by simp [Order.created, accrued], fun _ => rfl, rfl⟩
  · exact ⟨by simp [Order.booked, accrued], by simp [Order.booked, accrued], fun _ => rfl, rfl⟩

/-- An order whose purse is unchanged stands as it did. -/
theorem Stands.kept {order next : Order} {quote : Quote} (stands : Stands order quote)
    (same : purse next = purse order) (stays : order.status = .delivered → next.status = .delivered) :
    Stands next quote := by
  simp only [purse, Purse.mk.injEq] at same
  obtain ⟨total, net, detention, credit, payment⟩ := same
  have accrues : accrued next = accrued order := by rw [accrued, accrued, detention, credit]
  refine ⟨by rw [total, accrues]; exact stands.total, by rw [net, accrues]; exact stands.net,
    fun open_ => ?_, ?_⟩
  · rw [credit]
    exact stands.credit fun was => open_ (stays was)
  · -- Whether it is committed is read off the payment alone.
    have same : next.paymentCommitted = order.paymentCommitted := by
      simp only [Order.paymentCommitted, payment]
    rw [same]
    exact stands.open_

/-- So does one whose payment becomes anything but pending or paid. -/
theorem Stands.payment {order : Order} {quote : Quote} {status : PaymentStatus}
    (stands : Stands order quote) (open_ : status ≠ .pending ∧ status ≠ .paid) :
    Stands { order with paymentStatus := status } quote :=
  ⟨stands.total, stands.net, stands.credit, by simp [Order.paymentCommitted, open_.1, open_.2]⟩

/-- A fresh placement leaves the order standing at the quote it takes. -/
theorem Stands.repriced {order : Order} {quote priced : Quote} (stands : Stands order quote)
    (settled : orZero order.detentionAmount = orZero order.backfillCredit) :
    Stands (order.repriced priced) priced := by
  -- With waits and credits even, nothing has accrued beside the new quote.
  have nothing : accrued (order.repriced priced) = 0 := sub_eq_zero.mpr settled
  refine ⟨?_, ?_, stands.credit, stands.open_⟩
  · rw [nothing, add_zero]
    rfl
  · rw [nothing, add_zero]
    rfl

/-- A wait is added to the total, to the driver's share and to what has accrued. -/
theorem Stands.pickupCharged {order : Order} {quote : Quote} (stands : Stands order quote)
    (waited : Detention) : Stands (order.pickupCharged waited) quote := by
  -- The wait goes into the price and into what has accrued alike.
  refine ⟨?_, ?_, stands.credit, stands.open_⟩
  · simp only [Order.pickupCharged, stands.total, accrued, Option.getD_some]
    congr 1
    ring
  · simp only [Order.pickupCharged, stands.net, accrued, Option.getD_some]
    congr 1
    ring

/-- So are the wait and the credit of a delivery, which is the first to give anything back. -/
theorem Stands.delivered {order : Order} {quote : Quote} (stands : Stands order quote)
    (was : order.status ≠ .delivered) (waited : Option Detention) (backfill : Option Order.Backfill) :
    Stands (order.delivered waited backfill) quote := by
  have none := stands.credit was
  -- The price still stood open, so nothing was paid.
  have unpaid : order.paymentStatus ≠ .paid := by
    intro paid
    have open_ := stands.open_
    simp [Order.paymentCommitted, paid] at open_
  -- A delivery adds the wait to what has accrued, and takes the credit off it.
  have after : accrued (order.delivered waited backfill) = accrued order +
      orZero (waited.map Detention.detentionAmount) - orZero (backfill.map Order.Backfill.creditAmount) := by
    cases backfill with
    | none =>
      simp only [accrued, Order.delivered, Option.map_none, Option.none_or, Option.getD_some,
        Option.getD_none]
      ring
    | some filled =>
      simp only [accrued, Order.delivered, Option.map_some, Option.some_or, Option.getD_some, none]
      ring
  refine ⟨?_, ?_, fun still => absurd rfl still, stands.open_⟩
  · rw [after]
    simp only [Order.delivered, if_neg unpaid, stands.total, Option.getD_some]
    congr 1
    ring
  · rw [after]
    simp only [Order.delivered, stands.net, Option.getD_some]
    congr 1
    ring

/-- Every order that stands is priced at its quote and what has accrued. -/
theorem pricesStand_of_allStand {quoted : Quoted} (all : AllStand quoted) : PricesStand quoted := by
  -- The two sums are what standing at a quote says.
  intro id order found
  obtain ⟨quote, taken, stands⟩ := all id order found
  exact ⟨quote, taken, stands.total, stands.net⟩

/-- The quote of an order the event takes none for is the one it had. -/
theorem quotes_untaken {quoted : Quoted} {event : OpenEvent}
    (untaken : ∀ quote, quoteTaken quoted.board event.val ≠ some (id, quote)) :
    (quotedStep cfg quoted event).quotes id = quoted.quotes id := by
  cases taken : quoteTaken quoted.board event.val with
  | none => simp only [quotedStep, taken]
  | some quoteOf =>
    -- It is another order's quote that is written.
    simp only [quotedStep, taken]
    refine Function.update_of_ne (fun same => ?_) _ _
    subst same
    exact untaken quoteOf.2 taken

/-- The quote of an order the event takes one for is that one. -/
theorem quotes_taken {quoted : Quoted} {event : OpenEvent} {quote : Quote}
    (taken : quoteTaken quoted.board event.val = some (id, quote)) :
    (quotedStep cfg quoted event).quotes id = some quote := by
  -- The quotes are updated at its id.
  simp only [quotedStep, taken, Function.update_self]

/-- As long as orders are quoted anew only where nothing has accrued, every order stands. -/
theorem allStand_step (cfg : DispatchConfig) {quoted : Quoted} {event : OpenEvent}
    (all : AllStand quoted) (fresh : QuotedFresh quoted event) :
    AllStand (quotedStep cfg quoted event) := by
  intro id next after
  have after : (step cfg quoted.board event.val).order id = some next := after
  cases found : quoted.board.order id with
  | none =>
    -- A new order, booked at its quote.
    obtain ⟨priced, taken, booked⟩ := booked_of_new event found after
    exact ⟨priced, quotes_taken taken, stands_booked booked⟩
  | some order =>
    obtain ⟨quote, had, stands⟩ := all id order found
    by_cases taken : ∃ priced, quoteTaken quoted.board event.val = some (id, priced)
    · -- A placement that prices it anew.
      obtain ⟨priced, taken⟩ := taken
      obtain ⟨requester, pickup, delivery, is, allowed, pinned, open_⟩ := passes_of_quoteTaken taken found
      have settled := fresh requester id pickup delivery priced is allowed pinned order found open_
      obtain ⟨-, placed, there, repriced⟩ := @placed_of_passes cfg quoted.board id order requester
        pickup delivery priced allowed pinned found open_
      rw [is] at after
      obtain rfl := Option.some.inj (there.symm.trans after)
      refine ⟨priced, quotes_taken taken, ?_⟩
      rw [repriced]
      exact stands.repriced settled
    · -- Anything else, which keeps its quote.
      have untaken : ∀ priced, quoteTaken quoted.board event.val ≠ some (id, priced) :=
        fun priced same => taken ⟨priced, same⟩
      obtain ⟨changed, there, charges⟩ := step_charges cfg event found
      obtain rfl := Option.some.inj (there.symm.trans after)
      refine ⟨quote, (quotes_untaken untaken).trans had, ?_⟩
      cases charges with
      | placed requester pickup delivery priced by_ allowed pinned open_ =>
        have quotes := (@placed_of_passes cfg quoted.board id order requester pickup delivery priced
          allowed pinned found open_).1
        rw [← by_] at quotes
        exact absurd quotes (untaken priced)
      | kept same stays => exact stands.kept same stays
      | payment status open_ same standing =>
        exact (stands.payment open_).kept same fun was => standing.trans was
      | left waited was charged => exact (stands.pickupCharged waited).kept charged fun still => absurd still was
      | delivered waited backfill was closed =>
        rw [closed]
        exact stands.delivered was waited backfill

/-- Prices that stand after a placement stood to lose nothing by it. -/
theorem quotedFresh_of_pricesStand (cfg : DispatchConfig) {quoted : Quoted} {event : OpenEvent}
    (stand : PricesStand (quotedStep cfg quoted event)) : QuotedFresh quoted event := by
  intro requester id pickup delivery priced is allowed pinned order found open_
  obtain ⟨taken, placed, there, repriced⟩ := @placed_of_passes cfg quoted.board id order requester
    pickup delivery priced allowed pinned found open_
  rw [← is] at taken there
  obtain ⟨quote, named, total, -⟩ := stand id placed there
  obtain rfl := Option.some.inj ((quotes_taken taken).symm.trans named)
  -- The total is the quote alone, so nothing can have accrued beside it.
  rw [repriced] at total
  have total := Option.some.inj total
  exact sub_eq_zero.mp (left_eq_add.mp total)

/-- Prices are quotes and what has accrued since, exactly where nothing has at a placement. -/
theorem pricesStand_iff_quotedFresh (cfg : DispatchConfig) {start : Quoted}
    (empty : start.board.orders.rows = []) (events : List OpenEvent) :
    Throughout (quotedStep cfg) PricesStand start events ↔
      Along (quotedStep cfg) QuotedFresh start events := by
  -- On an empty board every price stands; from there one step decides for one step.
  have initial : AllStand start := by
    intro id order found
    have member := (Table.find?_eq_some.mp found).1
    rw [empty] at member
    cases member
  refine throughout_iff_of_invariant (fun _ => pricesStand_of_allStand) ?_ ?_ initial
  · exact fun quoted event _ stand => quotedFresh_of_pricesStand cfg stand
  · exact fun quoted event all fresh => allStand_step cfg all fresh

/-- The deployment in Kigali, with one card, that charges for waiting. -/
def DispatchConfig.waiting : DispatchConfig :=
  { DispatchConfig.kigali with rateOf := fun id => if id = 7 then some Payment.waitingRate else none }

/-- What that card makes of half a ton over twenty kilometres. -/
def aPricing : Except PricingError Quote :=
  priceJob (fun _ => some Payment.waitingRate) 500 (some 20) none

/-- Such a job. -/
def aJob : NewOrder where
  weightKg := 500
  hub := ⟨-2, 30⟩
  delivery := ⟨-1, 30⟩
  recipientPhone := none
  pricing := aPricing

/-- Nothing is booked yet, and one driver is ready to carry. -/
def nothingQuoted : Quoted where
  board := { papersTogether with orders := .empty }
  quotes := fun _ => none

/-- That driver. -/
def waitingDriver : Requester := { username := "driver", role := .driver }

/-- A job is booked and carried to where its driver has waited an hour and a half for the load. -/
def waitedFor : List OpenEvent :=
  [⟨.createOrder aDispatcher aJob, trivial⟩,
    ⟨.assignOrderBundle aDispatcher [1] "driver", trivial⟩,
    ⟨.updateOrderStatus waitingDriver 1 (some .atPickup) "1234" false, trivial⟩,
    ⟨.elsewhere papersTogether.users papersTogether.vehicles papersTogether.driverDocuments
      papersTogether.vehicleDocuments (90 * minute), trivial⟩,
    ⟨.updateOrderStatus waitingDriver 1 (some .pickedUp) "1234" false, trivial⟩]

/-- Its pickup is moved on the map. -/
def placedAgain : OpenEvent := ⟨.placeOneOrder aDispatcher 1 ⟨-2, 30⟩ ⟨-1, 30⟩ aPricing, trivial⟩

/-- Placing the order again takes the wait for it off its price, and leaves it on record. -/
theorem placed_again_drops :
    ¬ Throughout (quotedStep .waiting) PricesStand nothingQuoted (waitedFor ++ [placedAgain]) := by
  intro stand
  have last := stand.last
  -- The order is there, at the price of its quote, with six hundred for the wait beside it.
  cases found : (run (quotedStep .waiting) nothingQuoted (waitedFor ++ [placedAgain])).board.order 1 with
  | none => exact absurd found (by decide +kernel)
  | some order =>
    obtain ⟨quote, taken, total, -⟩ := last 1 order found
    have member := (Table.find?_eq_some.mp found).1
    have there := (by decide +kernel : ∀ order ∈ (run (quotedStep .waiting) nothingQuoted
      (waitedFor ++ [placedAgain])).board.orders.rows,
        order.priceTotal = aPricing.toOption.map Quote.totalAmount ∧
          accrued order.toOrder = 600) order member
    have same : ((run (quotedStep .waiting) nothingQuoted (waitedFor ++ [placedAgain])).quotes 1).map
      Quote.totalAmount = aPricing.toOption.map Quote.totalAmount := by decide +kernel
    have unchanged := Option.some.inj (total.symm.trans (there.1.trans (same.symm.trans
      (congrArg (Option.map Quote.totalAmount) taken))))
    have accrues := there.2
    linarith

/-- Where no order has anything on its account, any placement is fresh. -/
theorem quotedFresh_of_settled {quoted : Quoted} {event : OpenEvent}
    (settled : ∀ order ∈ quoted.board.orders.rows,
      orZero order.detentionAmount = orZero order.backfillCredit) : QuotedFresh quoted event :=
  fun _ _ _ _ _ _ _ _ order found _ => settled order (Table.find?_eq_some.mp found).1

/-- Placed before it is waited for, the order keeps what the wait adds. -/
theorem placed_first_stands : Throughout (quotedStep .waiting) PricesStand nothingQuoted
    (waitedFor.take 1 ++ placedAgain :: waitedFor.drop 1) :=
  (pricesStand_iff_quotedFresh .waiting rfl _).mpr
    (Along.mono (fun _ _ => quotedFresh_of_settled) (by decide +kernel))

end Freight.Dispatch
