import Mathlib
import Freight.Order.Balance
import Freight.Payment.Journey
import Freight.Payment.PaidStays
import Freight.Payment.Progress

/-! What a customer was charged, with the adjustment since, is what the job cost. -/

namespace Freight

namespace Order

/-- An order before anything is collected for it: its price is its cost. -/
structure Unsettled (order : Order) : Prop where
  sums : order.Sums
  unadjusted : orZero order.settlementAdjustment = 0
  unpaid : order.paymentStatus ≠ .paid

/-- A sound order that is priced and not yet paid is unsettled. -/
theorem Sound.unsettled {order : Order} (sound : order.Sound) (priced : order.platformFee.isSome)
    (unpaid : order.paymentStatus ≠ .paid) : order.Unsettled :=
  ⟨sound.sums priced, sound.unadjusted unpaid, unpaid⟩

/-- Leaving the pickup keeps the money adding up. -/
theorem Sums.statusUpdated {order : Order} (sums : order.Sums) (rateOf : Nat → Option Rate)
    (status : OrderStatus) (waited : Option ℚ) : (order.statusUpdated rateOf status waited).Sums := by
  -- Only leaving the pickup charges anything, and only where there is a rate to charge by.
  simp only [Order.statusUpdated]
  split
  · split
    · exact Sums.leftPickup (show ({ order with status := status } : Order).Sums from sums) _
    · exact sums
  · exact sums

/-- Confirming a delivery keeps the money adding up. -/
theorem Sums.deliveryConfirmed {order : Order} (sums : order.Sums) (rateOf : Nat → Option Rate)
    (waited : Option ℚ) (filledBy : Option Nat) :
    (order.deliveryConfirmed rateOf waited filledBy).Sums := by
  -- A delivery that has been made already is left alone.
  simp only [Order.deliveryConfirmed]
  split
  · exact sums.delivered _ _
  · exact sums

/-- Only a paid order is adjusted. -/
theorem deliveryConfirmed_adjustment {order : Order} (unpaid : order.paymentStatus ≠ .paid)
    (rateOf : Nat → Option Rate) (waited : Option ℚ) (filledBy : Option Nat) :
    (order.deliveryConfirmed rateOf waited filledBy).settlementAdjustment =
      order.settlementAdjustment := by
  -- Unpaid, the difference goes into the price.
  simp only [Order.deliveryConfirmed]
  split
  · simp [Order.delivered, unpaid]
  · rfl

end Order

namespace Payment

/-- The order has a successful request. -/
def HasSucceeded (id : Nat) (store : Store) : Prop :=
  ∃ row ∈ store.requests, row.orderId = id ∧ row.status = .successful

instance (id : Nat) (store : Store) : Decidable (HasSucceeded id store) :=
  inferInstanceAs (Decidable (∃ row ∈ store.requests, _ ∧ _))

/-- An order paid by mobile money was charged what it cost, up to the adjustment on record. -/
structure ChargedWhole (id : Nat) (store : Store) : Prop where
  /-- What was collected and what was adjusted since are fee and net. -/
  charged : ∀ order ∈ store.orders, order.id = id → order.paymentStatus = .paid →
    order.paymentMethod ≠ some .cash → HasSucceeded id store ∧
      ∀ row ∈ store.requests, row.orderId = id → row.status = .successful →
        row.amount + orZero order.settlementAdjustment =
          orZero order.platformFee + orZero order.driverNet
  /-- Nothing is adjusted before something has been collected. -/
  adjusted : ∀ order ∈ store.orders, order.id = id → order.paymentMethod ≠ some .cash →
    ¬ HasSucceeded id store → orZero order.settlementAdjustment = 0

instance (id : Nat) (store : Store) : Decidable (ChargedWhole id store) :=
  @decidable_of_iff _ (_ ∧ _)
    ⟨fun both => ⟨both.1, both.2⟩, fun whole => ⟨whole.charged, whole.adjusted⟩⟩
    (@instDecidableAnd _ _ (List.decidableBAll _ _) (List.decidableBAll _ _))

/--
The step settles what the order costs by then, and keeps its word.

It neither marks a request successful over another price than was asked, nor fails one that succeeded.
-/
def PaymentCall.settlesPrice (id : Nat) (store : Store) (answer : Answer) (call : PaymentCall) : Bool :=
  match call with
  -- The catch block fails its row whatever has become of it.
  | .request (.refuse requestId _ _ _) =>
    answer.fails || store.requests.all fun row =>
      row.id ≠ requestId || row.orderId ≠ id || row.status ≠ .successful
  | call =>
    match call.reconciling with
    | some (.settle found verdict) =>
      answer.fails || found.request.orderId ≠ id || verdict.status ≠ .successful ||
        !store.stillPending found.request.id || fare id store = found.request.amount
    | _ => true

/-- No event of the run settles another price, or moves the price between success and payment. -/
def chargesPrice (id : Nat) (pool : PaymentPool) : PaymentEvent → Bool
  | .run index answer => pool.calls[index]?.all fun call => call.settlesPrice id pool.shared answer
  | .outside (.confirmDelivery orderId rateOf waited filledBy) =>
    orderId ≠ id || !decide (HasSucceeded id pool.shared) ||
      (pool.shared.order id).all fun order => order.paymentStatus = .paid ||
        !deliverableFrom.contains order.status || order.deliveryCharge rateOf waited filledBy = 0
  | _ => true

/-- What was collected is the price as it stands. -/
structure Charged (id : Nat) (store : Store) (calls : List PaymentCall) : Prop
    extends Departed id store calls where
  sums : ∀ order ∈ store.orders, order.Sums
  /-- A successful request collected the price. -/
  amounts : ∀ row ∈ store.requests, row.orderId = id → row.status = .successful →
    fare id store = row.amount
  /-- An order about to be marked paid has a successful request. -/
  paying : ∀ call ∈ calls, ∀ found, call.reconciling = some (.payOrder found) →
    found.request.orderId = id → HasSucceeded id store
  /-- An order paid otherwise than in cash has one. -/
  paid : ∀ order ∈ store.orders, order.id = id → order.paymentStatus = .paid →
    order.paymentMethod ≠ some .cash → HasSucceeded id store
  /-- An order is adjusted only after that. -/
  unadjusted : ∀ order ∈ store.orders, order.id = id → order.paymentMethod ≠ some .cash →
    ¬ HasSucceeded id store → orZero order.settlementAdjustment = 0

namespace Charged

variable {cfg : Config} {id : Nat} {store : Store} {answer : Answer} {call : PaymentCall}
  {others : List PaymentCall}

/-- An order charged as it should be is charged what it cost. -/
theorem chargedWhole {calls : List PaymentCall} (inv : Charged id store calls) : ChargedWhole id store where
  -- What was charged is the fare the invariant ties it to, and the fare sums.
  charged := by
    intro order listed same paid method
    refine ⟨inv.paid order listed same paid method, fun row stored mine succeeded => ?_⟩
    have price := inv.amounts row stored mine succeeded
    have sums := inv.sums order listed
    rw [fare, ← same, inv.order_of_mem listed] at price
    simp only [Option.bind_some] at price
    rw [← price]
    exact sums
  adjusted := inv.unadjusted

/-- An order that has a successful request keeps one. -/
theorem succeeded_next (succeeded : HasSucceeded id store)
    (priced : call.settlesPrice id store answer = true) :
    HasSucceeded id ((call.next cfg store answer).1.execute store) := by
  obtain ⟨row, listed, mine, status⟩ := succeeded
  have same := onRequest_same (call.next cfg store answer).1 store.now row
  refine ⟨_, mem_execute_requests.mpr (.inl ⟨row, listed, rfl⟩), same.2.1.trans mine,
    onRequest_stays status fun reason fails => ?_⟩
  have collects := call.collects_of_next (by rw [fails]; rfl)
  rw [fails] at collects
  generalize (call.next cfg store answer).2 = next at collects
  -- A request is failed by its own catch block, and the condition rules out a successful one.
  cases collects with
  | fail requestId reference reason retryable works =>
    simp only [PaymentCall.settlesPrice, works, Bool.false_or, List.all_eq_true, Bool.or_eq_true,
      decide_eq_true_eq] at priced
    rcases priced row listed with (other | other) | other
    · exact other rfl
    · exact other mine
    · exact other status

/-- A settlement admitted by the condition collects the price. -/
theorem flips_price {found : Found} {verdict : Verdict} (flips : Flips cfg store answer call found verdict)
    (priced : call.settlesPrice id store answer = true) (mine : found.request.orderId = id) :
    fare id store = found.request.amount := by
  -- Whether it was asked for or swept, the settlement is the same.
  cases call with
  | reconcile inner =>
    cases flips.settling
    simpa [PaymentCall.settlesPrice, PaymentCall.reconciling, flips.works, flips.succeeded, flips.pending,
      mine] using priced
  | sweep call =>
    cases call with
    | settling row rest tally inner =>
      cases flips.settling
      simpa [PaymentCall.settlesPrice, PaymentCall.reconciling, flips.works, flips.succeeded,
        flips.pending, mine] using priced
    | _ => cases flips.settling
  | _ => cases flips.settling

/-- A call that has just marked a request of the order successful leaves it with one. -/
theorem succeeded_flips (inv : Charged id store (call :: others)) {found : Found} {verdict : Verdict}
    (flips : Flips cfg store answer call found verdict) (mine : found.request.orderId = id) :
    HasSucceeded id ((call.next cfg store answer).1.execute store) := by
  have reads : call.found = some found := by rw [PaymentCall.found, flips.settling]; rfl
  obtain ⟨row, listed, same, order, -⟩ := inv.backed call List.mem_cons_self found reads
  obtain ⟨open_, there, word⟩ := List.any_eq_true.mp flips.pending
  simp only [Bool.and_eq_true, decide_eq_true_eq] at word
  have row_eq : row = open_ := inv.same_request listed there (same.trans word.1.symm)
  rw [flips.writes]
  -- The row it read is still pending, so the statement that marks it marks this one.
  refine ⟨_, mem_execute_requests.mpr (.inl ⟨row, listed, rfl⟩), ?_, ?_⟩
  · rw [(onRequest_same _ _ _).2.1, order, mine]
  · simp [Statement.onRequest, same, row_eq ▸ word.2]

/-- A change to an order that moves no price once a request has succeeded leaves things as they were. -/
theorem update {calls : List PaymentCall} (inv : Charged id store calls) (target : Nat)
    {change : Order → Order} (departed : Departed id (store.updateOrder target change) calls)
    (same : ∀ order, (change order).id = order.id ∧ (change order).paymentStatus = order.paymentStatus ∧
      (change order).paymentMethod = order.paymentMethod)
    (sums : ∀ order : Order, order.Sums → (change order).Sums)
    (price : target = id → HasSucceeded id store → ∀ order, store.order id = some order →
      orZero (change order).priceTotal = orZero order.priceTotal)
    (adjusted : ∀ order : Order, order.paymentStatus ≠ .paid →
      (change order).settlementAdjustment = order.settlementAdjustment) :
    Charged id (store.updateOrder target change) calls := by
  refine { toDeparted := departed, sums := ?_, amounts := ?_, paying := inv.paying, paid := ?_
           unadjusted := ?_ }
  · exact forall_updateOrder inv.sums fun order listed _ => sums order (inv.sums order listed)
  · intro row listed mine succeeded
    rw [← inv.amounts row listed mine succeeded, fare, fare, order_update store id target fun order =>
      (same order).1]
    cases found : store.order id with
    | none => rfl
    | some order =>
      simp only [Option.map_some, Option.bind_some]
      split
      · rename_i own
        have mine' : order.id = id := by simpa using List.find?_some found
        exact price (own.symm.trans mine') ⟨row, listed, mine, succeeded⟩ order found
      · rfl
  · refine forall_updateOrder (fun order listed mine => inv.paid order listed mine) fun order listed _ mine paid method => ?_
    exact inv.paid order listed ((same order).1.symm.trans mine) ((same order).2.1.symm.trans paid)
      ((same order).2.2 ▸ method)
  · refine forall_updateOrder (fun order listed mine => inv.unadjusted order listed mine)
      fun order listed _ mine method none => ?_
    have own := (same order).1.symm.trans mine
    have other : order.paymentMethod ≠ some .cash := (same order).2.2 ▸ method
    -- An order paid by mobile money would have a successful request.
    rw [adjusted order fun paid => none (inv.paid order listed own paid other)]
    exact inv.unadjusted order listed own other none

end Charged

/-- Every event that meets the condition keeps what was collected equal to the price. -/
theorem charged_keeps (cfg : Config) (id : Nat) :
    (services cfg).Keeps (Charged id) fun pool event => chargesPrice id pool event = true where
  perm same inv := { inv with
    toDeparted := (departed_keeps cfg id).perm same inv.toDeparted
    paying := fun call member => inv.paying call (same.mem_iff.mpr member) }
  moves := by
    intro pool index answer call others taken inv admitted
    have priced : call.settlesPrice id pool.shared answer = true := by
      simpa [chargesPrice, taken.found] using admitted
    change Charged id ((call.next cfg pool.shared answer).1.execute pool.shared)
      ((call.next cfg pool.shared answer).2 :: others)
    -- A request that succeeded goes on having done so.
    have kept : HasSucceeded id pool.shared →
        HasSucceeded id ((call.next cfg pool.shared answer).1.execute pool.shared) :=
      fun succeeded => Charged.succeeded_next succeeded priced
    refine { toDeparted := (departed_keeps cfg id).moves taken inv.toDeparted trivial
             sums := ?_, amounts := ?_, paying := ?_, paid := ?_, unadjusted := ?_ }
    · simp only [execute_orders, List.forall_mem_map]
      intro order listed
      have same := onOrder_same (call.next cfg pool.shared answer).1 pool.shared.now order
      have sums := inv.sums order listed
      simpa only [Order.Sums, same.2.2.1, same.2.2.2.1, same.2.2.2.2.1, same.2.2.2.2.2.1] using sums
    · intro row listed mine succeeds
      rw [fare_execute]
      obtain ⟨old, before, same, order, amount, was | ⟨found, verdict, own, flips⟩⟩ :=
        PaymentCall.successful_cases listed succeeds
      · rw [← amount]
        exact inv.amounts old before (order.trans mine) was
      · -- The request that succeeds now was read by the call, with the amount it asks for.
        have reads : call.found = some found := by rw [PaymentCall.found, flips.settling]; rfl
        obtain ⟨stored, there, same', owner, -, amount', -⟩ :=
          inv.backed call List.mem_cons_self found reads
        have old_eq : old = stored := inv.same_request before there (own.trans same'.symm)
        rw [Charged.flips_price flips priced (owner.symm.trans (old_eq ▸ order.trans mine)), ← amount,
          old_eq, amount']
    · intro one member found pays mine
      rcases List.mem_cons.mp member with rfl | other
      · obtain ⟨verdict, flips⟩ := PaymentCall.flips_of_payOrder pays
        exact inv.succeeded_flips flips mine
      · exact kept (inv.paying one (List.mem_cons_of_mem _ other) found pays mine)
    · simp only [execute_orders, List.forall_mem_map, onOrder_id]
      intro order listed same paid method
      -- An order becomes paid by its request, or by cash, which is not asked about.
      rcases onOrder_paid_cases paid with was | stamped | stamped | cash
      · exact kept (inv.paid order listed same was (onOrder_method method))
      · obtain ⟨inner, settling, statement, -⟩ := call.settling_of_settles (by rw [stamped]; rfl)
        rw [stamped] at statement
        obtain ⟨found, rfl, own, -⟩ := inner.next_stampPaid statement.symm
        exact kept (inv.paying call List.mem_cons_self found settling (own.symm.trans same))
      · rcases call.next_stamps cfg pool.shared answer with ⟨other, status, -, -, unpaid, stamp⟩ | ⟨-, none⟩
        · rw [stamped] at stamp
          cases stamp
          exact absurd rfl unpaid
        · exact absurd stamped (none _ _)
      · exact absurd cash method
    · simp only [execute_orders, List.forall_mem_map, onOrder_id]
      intro order listed same method none
      rw [(onOrder_same _ _ _).2.2.2.2.2.1]
      exact inv.unadjusted order listed same (onOrder_method method) fun succeeded =>
        none (kept succeeded)
  arrives := by
    intro pool entry inv _
    refine { inv with toDeparted := (departed_keeps cfg id).arrives inv.toDeparted trivial
                      paying := List.forall_mem_cons.mpr ⟨fun found pays => ?_, inv.paying⟩ }
    cases entry <;> cases pays
  stops := by
    intro pool index call others found inv _
    exact { inv with
      toDeparted := (departed_keeps cfg id).stops found inv.toDeparted trivial
      paying := List.forall_mem_cons.mpr ⟨fun found pays => (by cases pays),
        (List.forall_mem_cons.mp inv.paying).2⟩ }
  happens := by
    intro pool event inv admitted free
    have departed := (departed_keeps cfg id).happens inv.toDeparted trivial free
    cases event with
    | settle | decline | wait => exact { inv with toDeparted := departed }
    | updateOrderStatus orderId rateOf status waited =>
      refine inv.update orderId departed (fun order => ?_) (fun order sums => sums.statusUpdated _ _ _)
        (fun _ succeeded order found => ?_) fun order _ => (order.statusUpdated_settlement _ _ _).1
      · have same := statusUpdated_same order rateOf status waited
        exact ⟨same.1, same.2, (order.statusUpdated_settlement _ _ _).2⟩
      · -- Whoever has paid is past the pickup, so no wait there is charged any more.
        obtain ⟨row, listed, mine, -⟩ := succeeded
        have own : order.id = id := by simpa using List.find?_some found
        have past := inv.past (.inl ⟨row, listed, mine⟩) order (List.mem_of_find?_eq_some found) own
        rw [(past.statusUpdated rateOf status waited).2.1]
    | confirmDelivery orderId rateOf waited filledBy =>
      refine inv.update orderId departed (fun order => ?_)
        (fun order sums => sums.deliveryConfirmed _ _ _) (fun own succeeded order found => ?_) fun order unpaid => Order.deliveryConfirmed_adjustment unpaid _ _ _
      · have same := deliveryConfirmed_same order rateOf waited filledBy
        exact ⟨same.1, same.2, order.deliveryConfirmed_method _ _ _⟩
      · simp only [chargesPrice, own, ne_eq, not_true_eq_false, decide_false, Bool.false_or, succeeded,
          decide_true, Bool.not_true, found, Option.all_some, Bool.or_eq_true, decide_eq_true_eq,
          Bool.not_eq_true', or_assoc] at admitted
        exact Order.deliveryConfirmed_price admitted

/-- With every order unsettled and no call in flight, all that has to hold does. -/
theorem charged_start (id : Nat) {orders : List Order} (distinct : (orders.map Order.id).Nodup)
    (unsettled : ∀ order ∈ orders, order.Unsettled) (nextId : Nat) :
    Charged id { orders := orders, nextId := nextId } [] where
  -- No request, no call and no payment is there to speak of yet.
  toDeparted := departed_start id distinct nextId
  sums := fun order listed => (unsettled order listed).sums
  amounts := by simp
  paying := by simp
  paid := fun order listed _ paid => absurd paid (unsettled order listed).unpaid
  unadjusted := fun order listed _ _ _ => (unsettled order listed).unadjusted

/-- In every run that settles the price, what was charged and adjusted is what the job cost. -/
theorem charged_whole {cfg : Config} {id : Nat} {orders : List Order} {nextId : Nat}
    {events : List PaymentEvent} (distinct : (orders.map Order.id).Nodup)
    (unsettled : ∀ order ∈ orders, order.Unsettled)
    (along : Along (services cfg).step (fun pool event => chargesPrice id pool event = true)
      { shared := { orders := orders, nextId := nextId }, calls := [] } events) :
    Throughout (services cfg).step (fun pool => ChargedWhole id pool.shared)
      { shared := { orders := orders, nextId := nextId }, calls := [] } events :=
  ((charged_keeps cfg id).throughout (charged_start id distinct unsettled nextId) along).mono
    fun _ inv => inv.chargedWhole

/-- The order waiting at its door is unsettled. -/
theorem waitingAtTheDoor_unsettled : ∀ order ∈ [waitingAtTheDoor], order.Unsettled := by
  -- It is one order, whose figures are given.
  simp only [List.mem_singleton, forall_eq]
  exact ⟨by rw [Order.Sums]; decide +kernel, by decide +kernel, by decide⟩

/-- The customer pays at the door, and the driver is kept waiting an hour and a half. -/
def paidThenKept : List PaymentEvent :=
  [.call (.requestPaymentForOrder 1 none none), .run 0 {}, .run 0 {}, .run 0 {}, .run 0 {}, .run 0 {},
    .outside (.settle 1 1000 ['R', 'W', 'F']), .call (.reconcilePaymentRequest 1), .run 1 {},
    .run 1 { verdict := some collected }, .run 1 {}, .run 1 {},
    .outside (.confirmDelivery 1 (fun _ => some waitingRate) (some 90) none)]

/-- The hour charged afterwards is on record as an adjustment. -/
theorem charged_whole_paidThenKept :
    Throughout (services .kigali).step (fun pool => ChargedWhole 1 pool.shared)
      { shared := { orders := [waitingAtTheDoor], nextId := 1 }, calls := [] } paidThenKept :=
  charged_whole (by decide) waitingAtTheDoor_unsettled (by decide +kernel)

/-- The delivery is confirmed, after a wait, while a prompt for the old total is still unanswered. -/
def deliveredWhilePrompted : List PaymentEvent :=
  [.call (.requestPaymentForOrder 1 none none), .run 0 {}, .run 0 {}, .run 0 {}, .run 0 {}, .run 0 {},
    .outside (.confirmDelivery 1 (fun _ => some waitingRate) (some 90) none),
    .outside (.settle 1 1000 ['R', 'W', 'F']), .call (.reconcilePaymentRequest 1), .run 1 {},
    .run 1 { verdict := some collected }, .run 1 {}, .run 1 {}]

/-- The wait is folded into the total as if the prompt had asked for it. -/
theorem charged_short :
    ¬ ∀ (cfg : Config) (id : Nat) (orders : List Order) (nextId : Nat) (events : List PaymentEvent),
      (orders.map Order.id).Nodup → (∀ order ∈ orders, order.Unsettled) →
      Throughout (services cfg).step (fun pool => ChargedWhole id pool.shared)
        { shared := { orders := orders, nextId := nextId }, calls := [] } events := by
  -- The claim would have the end of that run whole, and it is not.
  intro always
  have whole := (always .kigali 1 [waitingAtTheDoor] 1 deliveredWhilePrompted (by decide)
    waitingAtTheDoor_unsettled).last
  have short : ¬ ChargedWhole 1 (run (services .kigali).step
      { shared := { orders := [waitingAtTheDoor], nextId := 1 }, calls := [] }
      deliveredWhilePrompted).shared := by
    decide +kernel
  exact short whole

end Payment

end Freight
