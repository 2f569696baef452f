import Mathlib.Tactic.Linarith
import Freight.Library.Run
import Freight.Order.Money

/-! An order's own money always balances: total and adjustment are fee and driver's share. -/

namespace Freight

namespace Order

/-- Total and adjustment make up fee and net, once all of them are known. -/
def Balanced (order : Order) : Prop :=
  ∀ total fee net, order.priceTotal = some total → order.platformFee = some fee →
    order.driverNet = some net → total + orZero order.settlementAdjustment = fee + net

/-- The money adds up, absent columns counting as nothing. -/
def Sums (order : Order) : Prop :=
  orZero order.priceTotal + orZero order.settlementAdjustment =
    orZero order.platformFee + orZero order.driverNet

/-- Waiting at the pickup raises the total and the driver's share alike. -/
theorem Sums.leftPickup {order : Order} (sums : order.Sums) (waited : Option Detention) :
    (order.leftPickup waited).Sums := by
  -- Both sides grow by the fee: the total on the left, detention and the driver's net on the right.
  cases waited with
  | none => exact sums
  | some waited =>
    simp only [Sums, Order.leftPickup, pickupCharged, Option.getD_some] at sums ⊢
    linarith

/-- Delivery moves total or adjustment, whichever the payment says, by what the driver's share moves. -/
theorem Sums.delivered {order : Order} (sums : order.Sums) (waited : Option Detention)
    (backfill : Option Backfill) : (order.delivered waited backfill).Sums := by
  simp only [Sums] at sums
  by_cases paid : order.paymentStatus = .paid
  · -- The total stands, and the adjustment takes the change.
    simp only [Sums, Order.delivered, paid, if_true, Option.getD_some]
    linarith
  · simp only [Sums, Order.delivered, paid, if_false, Option.getD_some]
    linarith

/-- An order that balances, and that carries no adjustment before it is paid. -/
structure Sound (order : Order) : Prop where
  /-- A priced order adds up. -/
  sums : order.platformFee.isSome → order.Sums
  /-- A priced order has all three figures. -/
  priced : order.platformFee.isSome → order.priceTotal.isSome ∧ order.driverNet.isSome
  /-- Only a paid order is ever adjusted. -/
  unadjusted : order.paymentStatus ≠ .paid → orZero order.settlementAdjustment = 0

/-- A sound order balances. -/
theorem Sound.balanced {order : Order} (sound : order.Sound) : order.Balanced := by
  -- A priced order's sums are of the three columns, all of them there.
  intro total fee net hasTotal hasFee hasNet
  have sums := sound.sums (by simp [hasFee])
  simpa [Sums, hasTotal, hasFee, hasNet] using sums

/-- A dispatcher's order is sound from the start. -/
theorem sound_created (id : Nat) {priced : Quote}
    (adds : priced.totalAmount = priced.platformFee + priced.driverNet) : (created id priced).Sound := by
  -- Its net is its price less its fee, and nothing has been waited for.
  constructor <;> simp [created, adds, Sums]

/-- A customer's booking is sound from the start. -/
theorem sound_booked (id : Nat) (phone : String) {priced : Quote}
    (adds : priced.totalAmount = priced.platformFee + priced.driverNet) :
    (booked id phone priced).Sound := by
  -- Its net is its price less its fee, and nothing has been waited for.
  constructor <;> simp [booked, adds, Sums]

/-- Placement replaces all three figures at once, and only where there is no adjustment. -/
theorem Sound.placed {order : Order} (sound : order.Sound) {pricing : Except PricingError Quote}
    (adds : ∀ priced, pricing = .ok priced →
      priced.totalAmount = priced.platformFee + priced.driverNet) : (order.placed pricing).Sound := by
  simp only [Order.placed]
  split
  · exact sound
  · rename_i open_
    split
    · exact sound
    · rename_i priced
      -- An order that may be repriced is not paid, so it has never been adjusted.
      have unpaid : order.paymentStatus ≠ .paid := fun paid => open_ (by simp [paymentCommitted, paid])
      have none := sound.unadjusted unpaid
      have sum := adds priced rfl
      exact ⟨fun _ => by simpa [Sums, repriced, none] using sum, fun _ => by simp [repriced],
        fun _ => by simpa [repriced] using none⟩

/-- Waiting at the pickup keeps an order sound. -/
theorem Sound.leftPickup {order : Order} (sound : order.Sound) (waited : Option Detention) :
    (order.leftPickup waited).Sound := by
  -- An unpriced order has nothing charged; a priced one sums as before.
  cases waited with
  | none => exact sound
  | some waited =>
    exact ⟨fun priced => (sound.sums priced).leftPickup (some waited),
      fun _ => by simp [Order.leftPickup, pickupCharged], sound.unadjusted⟩

/-- Delivery keeps an order sound. -/
theorem Sound.delivered {order : Order} (sound : order.Sound) (waited : Option Detention)
    (backfill : Option Backfill) : (order.delivered waited backfill).Sound := by
  -- Paid, the difference goes into the adjustment; unpaid, it goes into the price and there is none.
  refine ⟨fun priced => (sound.sums priced).delivered waited backfill, fun priced => ?_, fun unpaid => ?_⟩
  · by_cases paid : order.paymentStatus = .paid
    · exact ⟨by simpa [Order.delivered, paid] using (sound.priced priced).1, rfl⟩
    · simp [Order.delivered, paid]
  · have open_ : order.paymentStatus ≠ .paid := unpaid
    simpa [Order.delivered, open_] using sound.unadjusted open_

/-- A payment status may change in any way that does not leave `PAID`. -/
def payment (order : Order) (status : PaymentStatus) : Order :=
  if order.paymentStatus = .paid then order else { order with paymentStatus := status }

/-- A change of payment status touches no money. -/
theorem Sound.payment {order : Order} (sound : order.Sound) (status : PaymentStatus) :
    (order.payment status).Sound := by
  -- A paid order is left as it is; any other changes its status only.
  simp only [Order.payment]
  split
  · exact sound
  · rename_i unpaid
    exact ⟨sound.sums, sound.priced, fun _ => sound.unadjusted unpaid⟩

end Order

/-- What is known of a job when it is priced: its card's class table, weight, distance and terrain. -/
structure Job where
  currentRateFor : String → Option Rate
  weightKg : ℚ
  distanceKm : Option ℚ
  terrainFactor : Option ℚ

/-- The price of a job. -/
def Job.price (job : Job) : Except PricingError Quote :=
  priceJob job.currentRateFor job.weightKg job.distanceKm job.terrainFactor

/-- What can happen to the money columns of the orders table. -/
inductive MoneyStep where
  /-- The table holds a row from before orders were priced. -/
  | unpriced (id : Nat)
  /-- A dispatcher books a job, under a fresh id. -/
  | createOrder (id : Nat) (job : Job)
  /-- A customer books a job. -/
  | publicCreateOrder (id : Nat) (phone : String) (job : Job)
  /-- An order is pinned to the map. -/
  | placeOneOrder (id : Nat) (job : Job)
  /-- A driver leaves the pickup, after a wait on record or none. -/
  | leavePickup (id : Nat) (rateOf : Nat → Option Rate) (waited : Option ℚ)
  /-- A delivery is confirmed, with what it waited and what filled its return leg. -/
  | confirmDelivery (id : Nat) (rateOf : Nat → Option Rate) (waited : Option ℚ) (filledBy : Option Nat)
  /-- Some payment changes the order's payment status. -/
  | payment (id : Nat) (status : PaymentStatus)

/-- A change to the row an id names. -/
def updateRow (orders : List Order) (id : Nat) (change : Order → Order) : List Order :=
  orders.map fun order => if order.id = id then change order else order

/-- One step of the table. A booking that cannot be priced is refused. -/
def moneyStep (orders : List Order) : MoneyStep → List Order
  | .unpriced id => orders ++ [{ id := id }]
  | .createOrder id job =>
    match job.price with
    | .error _ => orders
    | .ok priced => orders ++ [.created id priced]
  | .publicCreateOrder id phone job =>
    match job.price with
    | .error _ => orders
    | .ok priced => orders ++ [.booked id phone priced]
  -- A placement that cannot be priced leaves the figures alone.
  | .placeOneOrder id job => updateRow orders id fun order => order.placed job.price
  | .leavePickup id rateOf waited =>
    updateRow orders id fun order => order.leftPickup (order.detentionForOrder rateOf waited)
  | .confirmDelivery id rateOf waited filledBy =>
    updateRow orders id fun order =>
      order.delivered (order.detentionForOrder rateOf waited) (order.backfillCreditForOrder filledBy)
  | .payment id status => updateRow orders id fun order => order.payment status

/-- Every order of the table is sound. -/
def AllSound (orders : List Order) : Prop := ∀ order ∈ orders, order.Sound

/-- A change that keeps one order sound keeps the table sound. -/
theorem AllSound.update {orders : List Order} (sound : AllSound orders) (id : Nat)
    {change : Order → Order} (keeps : ∀ order : Order, order.Sound → (change order).Sound) :
    AllSound (updateRow orders id change) := by
  -- Rows under other ids are not touched.
  simp only [AllSound, updateRow, List.forall_mem_map]
  intro order member
  split
  · exact keeps order (sound order member)
  · exact sound order member

/-- A sound booking keeps the table sound. -/
theorem AllSound.book {orders : List Order} (sound : AllSound orders) {order : Order}
    (new : order.Sound) : AllSound (orders ++ [order]) := by
  -- It is an old order or the new one.
  intro other member
  rcases List.mem_append.mp member with old | last
  · exact sound other old
  · rw [List.mem_singleton.mp last]
    exact new

/-- Every step keeps every order sound. -/
theorem AllSound.step {orders : List Order} (sound : AllSound orders) (event : MoneyStep) :
    AllSound (moneyStep orders event) := by
  -- A step books an order, or changes one by an operation that keeps it sound.
  cases event with
  | unpriced id => exact sound.book ⟨by simp, by simp, by simp⟩
  | createOrder id job =>
    simp only [moneyStep]
    split
    · exact sound
    · rename_i priced price
      exact sound.book (Order.sound_created id (priceJob_adds_up price))
  | publicCreateOrder id phone job =>
    simp only [moneyStep]
    split
    · exact sound
    · rename_i priced price
      exact sound.book (Order.sound_booked id phone (priceJob_adds_up price))
  | placeOneOrder id job =>
    exact sound.update id fun _ one => one.placed fun _ price => priceJob_adds_up price
  | leavePickup id rateOf waited => exact sound.update id fun _ one => one.leftPickup _
  | confirmDelivery id rateOf waited filledBy => exact sound.update id fun _ one => one.delivered _ _
  | payment id status => exact sound.update id fun _ one => one.payment status

/-- In every run from an empty table, every order's money balances in every state. -/
theorem money_always_balances (events : List MoneyStep) :
    Throughout moneyStep (fun orders => ∀ order ∈ orders, order.Balanced) [] events :=
  -- Soundness is what each step carries over to the next.
  (throughout_of_step (fun _ event sound => AllSound.step sound event) (by simp [AllSound])).mono
    fun _ sound order member => (sound order member).balanced

end Freight
