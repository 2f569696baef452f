import Mathlib.Tactic.Linarith
import Freight.Payment.Fares

/-! The order's own journey: what it changes of an order's money, and that it never goes back. -/

namespace Freight

namespace Order

/-- The order has left the pickup behind. -/
def PastPickup (order : Order) : Prop := stage .atPickup < stage order.status

/-- A status update never adjusts an order, nor changes how it is paid. -/
theorem statusUpdated_settlement (order : Order) (rateOf : Nat → Option Rate) (status : OrderStatus)
    (waited : Option ℚ) :
    (order.statusUpdated rateOf status waited).settlementAdjustment = order.settlementAdjustment ∧
      (order.statusUpdated rateOf status waited).paymentMethod = order.paymentMethod := by
  -- A wait is charged to the price, and neither column is part of that.
  simp only [Order.statusUpdated]
  split
  · split
    · cases order.detentionForOrder rateOf waited <;> exact ⟨rfl, rfl⟩
    · exact ⟨rfl, rfl⟩
  · exact ⟨rfl, rfl⟩

/-- Past the pickup, a status update changes no money, and never goes back there. -/
theorem PastPickup.statusUpdated {order : Order} (past : order.PastPickup) (rateOf : Nat → Option Rate)
    (status : OrderStatus) (waited : Option ℚ) :
    (order.statusUpdated rateOf status waited).PastPickup ∧
      (order.statusUpdated rateOf status waited).priceTotal = order.priceTotal ∧
      (order.statusUpdated rateOf status waited).driverNet = order.driverNet := by
  simp only [Order.statusUpdated]
  -- The order has left the pickup, so no wait there is charged for any more.
  have gone : order.status ≠ .atPickup := fun same => by simp [PastPickup, same] at past
  by_cases moves : order.movesTo status = true
  · -- Statuses lead on only to later stages.
    have allowed : canTransition order.status status = true := by
      simp only [Order.movesTo, Bool.and_eq_true] at moves
      exact moves.1
    rw [if_pos moves, if_neg fun leaves => gone leaves.1]
    exact ⟨lt_of_lt_of_le past (stage_le_of_canTransition allowed), rfl, rfl⟩
  · rw [if_neg moves]
    exact ⟨past, rfl, rfl⟩

/-- A delivered order is past the pickup, and so was an arrived one. -/
theorem PastPickup.deliveryConfirmed {order : Order} (past : order.PastPickup)
    (rateOf : Nat → Option Rate) (waited : Option ℚ) (filledBy : Option Nat) :
    (order.deliveryConfirmed rateOf waited filledBy).PastPickup := by
  -- A confirmation delivers the order, or finds it delivered.
  simp only [Order.deliveryConfirmed]
  split
  · simp [PastPickup, Order.delivered, stage]
  · exact past

/-- Confirming a delivery never changes how an order is paid. -/
theorem deliveryConfirmed_method (order : Order) (rateOf : Nat → Option Rate) (waited : Option ℚ)
    (filledBy : Option Nat) :
    (order.deliveryConfirmed rateOf waited filledBy).paymentMethod = order.paymentMethod := by
  -- A delivery writes the status and the money.
  simp only [Order.deliveryConfirmed]
  split <;> rfl

/-- What confirming a delivery would add to the order's price, when it is not yet paid. -/
def deliveryCharge (order : Order) (rateOf : Nat → Option Rate) (waited : Option ℚ)
    (filledBy : Option Nat) : ℚ :=
  deliveryChange (order.detentionForOrder rateOf waited) (order.backfillCreditForOrder filledBy)

/-- The price moves by that charge, and only on an unpaid order that can be delivered. -/
theorem deliveryConfirmed_price {order : Order} {rateOf : Nat → Option Rate} {waited : Option ℚ}
    {filledBy : Option Nat} (still : order.paymentStatus = .paid ∨
      deliverableFrom.contains order.status = false ∨ order.deliveryCharge rateOf waited filledBy = 0) :
    orZero (order.deliveryConfirmed rateOf waited filledBy).priceTotal = orZero order.priceTotal := by
  simp only [Order.deliveryConfirmed]
  split
  · -- The order is delivered, and what is added to its price is the charge.
    rename_i arrived
    rcases still with paid | elsewhere | free
    · simp [Order.delivered, paid]
    · rw [elsewhere] at arrived
      cases arrived
    · simp only [deliveryCharge, deliveryChange] at free
      by_cases paid : order.paymentStatus = .paid
      · simp [Order.delivered, paid]
      · simp only [Order.delivered, paid, if_false, Option.getD_some]
        linarith
  · rfl

/-- The driver's share moves by that charge, whether the order is paid or not. -/
theorem deliveryConfirmed_net {order : Order} {rateOf : Nat → Option Rate} {waited : Option ℚ}
    {filledBy : Option Nat} (still : deliverableFrom.contains order.status = false ∨
      order.deliveryCharge rateOf waited filledBy = 0) :
    orZero (order.deliveryConfirmed rateOf waited filledBy).driverNet = orZero order.driverNet := by
  simp only [Order.deliveryConfirmed]
  split
  · -- The share grows by the charge without asking about the payment.
    rename_i arrived
    rcases still with elsewhere | free
    · rw [elsewhere] at arrived
      cases arrived
    · simp only [deliveryCharge, deliveryChange] at free
      simp only [Order.delivered, Option.getD_some]
      linarith
  · rfl

end Order

namespace Payment

/-- A change to one order, seen from its own id. -/
theorem order_update (store : Store) (id target : Nat) {change : Order → Order}
    (keeps : ∀ order, (change order).id = order.id) : (store.updateOrder target change).order id =
      (store.order id).map fun order => if order.id = target then change order else order := by
  -- The change keeps ids, so the id is found where it was.
  simp only [Store.order, Store.updateOrder, List.find?_map]
  congr 1
  refine congrArg (fun test => store.orders.find? test) (funext fun order => ?_)
  simp only [Function.comp_apply]
  split <;> simp [keeps]

/-- What holds of every order, the changed one included, holds of all of them afterwards. -/
theorem forall_updateOrder {store : Store} {target : Nat} {change : Order → Order}
    {holds : Order → Prop} (old : ∀ order ∈ store.orders, holds order)
    (new : ∀ order ∈ store.orders, order.id = target → holds (change order)) :
    ∀ order ∈ (store.updateOrder target change).orders, holds order := by
  -- A row is changed where its id is the target's, and else as it was.
  simp only [Store.updateOrder, List.forall_mem_map]
  intro order listed
  split
  · rename_i own
    exact new order listed own
  · exact old order listed

/-- The order whose charge a call has decided and not yet written down. -/
def PaymentCall.charging : PaymentCall → Option Nat
  | .request (.selectPending charge) | .request (.insertRequest charge) => some charge.orderId
  | _ => none

/-- Whoever is charged for an order, or about to be, finds it past the pickup. -/
structure Departed (id : Nat) (store : Store) (calls : List PaymentCall) : Prop
    extends Keyed store calls where
  past : (∃ row ∈ store.requests, row.orderId = id) ∨ (∃ call ∈ calls, call.charging = some id) →
    ∀ order ∈ store.orders, order.id = id → order.PastPickup

/-- A charge is only decided for an order past its pickup. -/
theorem next_charging {cfg : Config} {id : Nat} {store : Store} {answer : Answer} {call : PaymentCall}
    (charges : (call.next cfg store answer).2.charging = some id) :
    (∀ order, store.order id = some order → order.PastPickup) ∨ call.charging = some id := by
  cases call with
  | request call =>
    cases call with
    -- Here the charge is decided, on the row that was read.
    | selectOrder orderId payFrom requestedBy =>
      refine .inl fun order found => ?_
      revert charges
      simp only [PaymentCall.next, RequestCall.next]
      repeat' split
      · rintro ⟨⟩
      · rintro ⟨⟩
      · rintro ⟨⟩
      · rename_i charge decided
        intro charges
        -- Only an order on its way or at its door is charged.
        obtain ⟨row, there, own, -, allowed⟩ := chargeFor_ok decided
        have due := (chargeable_ok allowed).2.1
        have mine : charge.orderId = id := Option.some.inj charges
        have same : row.id = orderId := by simpa using List.find?_some there
        rw [← same, ← own, mine, found] at there
        cases there
        revert due
        cases status : order.status <;> simp [collectableStatuses, Order.PastPickup, status, stage]
    -- After that it is carried along as it is.
    | selectPending charge =>
      refine .inr ?_
      revert charges
      simp only [PaymentCall.next, RequestCall.next]
      repeat' split
      · rintro ⟨⟩
      · rintro ⟨⟩
      · exact fun charges => charges
    | _ =>
      revert charges
      simp only [PaymentCall.next, RequestCall.next]
      repeat' split
      all_goals rintro ⟨⟩
  | _ => cases charges

/-- Every event whatever keeps charged orders past the pickup. -/
theorem departed_keeps (cfg : Config) (id : Nat) :
    (services cfg).Keeps (Departed id) fun _ _ => True where
  perm same inv :=
    { toKeyed := (keyed_keeps cfg).perm same inv.toKeyed
      past := fun known => inv.past (known.imp_right fun ⟨call, member, charges⟩ =>
        ⟨call, same.mem_iff.mpr member, charges⟩) }
  moves := by
    intro pool index answer call others taken inv _
    change Departed id ((call.next cfg pool.shared answer).1.execute pool.shared)
      ((call.next cfg pool.shared answer).2 :: others)
    refine { toKeyed := (keyed_keeps cfg).moves taken inv.toKeyed trivial, past := ?_ }
    intro known
    simp only [execute_orders, List.forall_mem_map, onOrder_id]
    intro order listed same
    -- No statement of the services writes where an order stands.
    have status := (onOrder_same (call.next cfg pool.shared answer).1 pool.shared.now order).2.2.2.2.2.2
    rw [Order.PastPickup, status]
    rcases known with ⟨row, stored, mine⟩ | ⟨one, member, charges⟩
    · rcases mem_execute_requests.mp stored with ⟨old, before, rfl⟩ | inserts
      · rw [(onRequest_same _ _ _).2.1] at mine
        exact inv.past (.inl ⟨old, before, mine⟩) order listed same
      · obtain ⟨charge, currency, rfl, rfl, -⟩ := inserted inserts
        exact inv.past (.inr ⟨_, List.mem_cons_self, congrArg some mine⟩) order listed same
    · rcases List.mem_cons.mp member with rfl | other
      · -- The charge was decided just now, for an order that has departed, or before.
        rcases next_charging charges with decided | before
        · exact decided order (same ▸ inv.order_of_mem listed)
        · exact inv.past (.inr ⟨call, List.mem_cons_self, before⟩) order listed same
      · exact inv.past (.inr ⟨one, List.mem_cons_of_mem _ other, charges⟩) order listed same
  arrives := by
    intro pool entry inv _
    refine { toKeyed := (keyed_keeps cfg).arrives inv.toKeyed trivial, past := ?_ }
    rintro (row | ⟨call, member, charges⟩)
    · exact inv.past (.inl row)
    · rcases List.mem_cons.mp member with rfl | old
      · cases entry <;> cases charges
      · exact inv.past (.inr ⟨call, old, charges⟩)
  stops := by
    intro pool index call others found inv _
    refine { toKeyed := (keyed_keeps cfg).stops found inv.toKeyed trivial, past := ?_ }
    rintro (row | ⟨one, member, charges⟩)
    · exact inv.past (.inl row)
    · rcases List.mem_cons.mp member with rfl | other
      · cases charges
      · exact inv.past (.inr ⟨one, List.mem_cons_of_mem _ other, charges⟩)
  happens := by
    intro pool event inv _ free
    refine { toKeyed := (keyed_keeps cfg).happens inv.toKeyed trivial free, past := fun known => ?_ }
    cases event with
    | settle | decline | wait => exact inv.past known
    | updateOrderStatus orderId rateOf status waited =>
      refine forall_updateOrder (inv.past known) fun order listed _ own => ?_
      have same := (statusUpdated_same order rateOf status waited).1
      exact ((inv.past known order listed (same.symm.trans own)).statusUpdated _ _ _).1
    | confirmDelivery orderId rateOf waited filledBy =>
      refine forall_updateOrder (inv.past known) fun order listed _ own => ?_
      have same := (deliveryConfirmed_same order rateOf waited filledBy).1
      exact (inv.past known order listed (same.symm.trans own)).deliveryConfirmed _ _ _

/-- With nothing charged and no call in flight, nobody has to have departed. -/
theorem departed_start (id : Nat) {orders : List Order} (distinct : (orders.map Order.id).Nodup)
    (nextId : Nat) : Departed id { orders := orders, nextId := nextId } [] where
  -- There is no request and no call to speak of.
  orders := distinct
  requests := List.nodup_nil
  references := List.nodup_nil
  drawn := by simp
  fresh := List.nodup_nil
  undrawn := by simp [unsentReferences]
  backed := by simp
  past := by simp

/-- A card that charges an hour of waiting at six hundred, after half an hour free. -/
def waitingRate : Rate where
  id := 7
  vehicleClass := "Light Van"
  currency := some ['R', 'W', 'F']
  baseFare := 500
  perKm := 100
  perKg := 0
  minimumFare := 500
  fuelLitresPer100Km := 0
  fuelPricePerLitre := 0
  platformCommissionPct := 15
  platformMinimumFee := 100
  detentionFreeMinutes := some 30
  detentionPerHour := some 600

/-- The order at its door, quoted on that card. -/
def waitingAtTheDoor : Order := { atTheDoor with pricingRateId := some 7 }

end Payment

end Freight
