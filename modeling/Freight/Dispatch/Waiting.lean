import Freight.Dispatch.ReturnLegs
import Freight.Dispatch.History

/-! Whether every wait that the log of an order tells of is charged for, once. -/

namespace Freight.Dispatch

/-- What can happen to an order that is waited for. -/
inductive WaitEvent where
  /-- With the code that would be issued, and what becomes of a transaction left open. -/
  | updateOrderStatus (requester : Requester) (id : Nat) (status : Option OrderStatus) (code : String)
      (committedLater : Bool)
  | updateStop (requester : Requester) (stopId : Nat) (status : Option StopStatus)
      (failureReason : Option String)
  | forceOrderStatus (requester : Requester) (id : Nat) (status : Option OrderStatus) (reason : String)
  | confirmDelivery (requester : Requester) (id : Nat) (proof : DeliveryProof)
  /-- Time passes. -/
  | passes (elapsed : Nat)

/-- One such event. -/
def waitStep (cfg : DispatchConfig) (board : Board) : WaitEvent → Board
  | .updateOrderStatus requester id status code committedLater =>
    step cfg board (.updateOrderStatus requester id status code committedLater)
  | .updateStop requester stopId status failureReason =>
    step cfg board (.updateStop requester stopId status failureReason)
  | .forceOrderStatus requester id status reason =>
    fleetStep cfg board (.forceOrderStatus requester id status reason)
  | .confirmDelivery requester id proof => step cfg board (.confirmDelivery requester id proof)
  -- A wait grows with the clock alone.
  | .passes elapsed => { board with now := board.now + elapsed }

/-- What the log of an order tells of its waits. -/
structure WaitLedger where
  /-- The latest entry. -/
  last : Option StatusLog := none
  /-- The last stay at the drop that is over, in minutes, until a delivery follows it. -/
  atDrop : Option ℚ := none
  /-- The waits to be charged for, in minutes: each stay at the pickup, and the last at the drop before a delivery. -/
  due : List ℚ := []

namespace WaitLedger

variable (ledger : WaitLedger)

/-- The minutes the order has been where the latest entry has it arrive. -/
def stayed (status : OrderStatus) (now : Nat) : Option ℚ :=
  (ledger.last.filter fun entry => entry.newStatus = status).map fun entry =>
    ((now : ℚ) - entry.changedAt) / minute

/-- The last stay at the drop, once the order moves. -/
def leftDrop (now : Nat) : Option ℚ := (ledger.stayed .arrived now).or ledger.atDrop

/-- What comes due as the order moves to a status. -/
def comesDue (status : OrderStatus) (now : Nat) : List ℚ :=
  (ledger.stayed .atPickup now).toList ++ if status = .delivered then (ledger.leftDrop now).toList else []

/-- The next entry is read. -/
def enter (entry : StatusLog) : WaitLedger where
  last := some entry
  atDrop := if entry.newStatus = .delivered then none else ledger.leftDrop entry.changedAt
  due := ledger.due ++ ledger.comesDue entry.newStatus entry.changedAt

end WaitLedger

/-- The waits that the log tells of, as it stands. -/
def Board.ledger (board : Board) (id : Nat) : WaitLedger := (board.historyOf id).foldl WaitLedger.enter {}

/-- What a wait is worth on the card the job was quoted on. -/
def DispatchOrder.worth (cfg : DispatchConfig) (order : DispatchOrder) (waited : Option ℚ) : ℚ :=
  orZero ((order.toOrder.detentionForOrder cfg.rateOf waited).map Detention.detentionAmount)

/-- What some waits are worth together. -/
def DispatchOrder.worthOf (cfg : DispatchConfig) (order : DispatchOrder) (waits : List ℚ) : ℚ :=
  (waits.map fun minutes => order.worth cfg (some minutes)).sum

/-- The totals are those of the two ends, and every wait of the log is in them once. -/
@[mk_iff] structure ChargedOnce (cfg : DispatchConfig) (ledger : WaitLedger) (order : DispatchOrder) : Prop where
  amounts : orZero order.detentionAmount =
    orZero order.pickupDetentionAmount + orZero order.dropoffDetentionAmount
  minutes : orZero order.detentionMinutes =
    orZero order.pickupDetentionMinutes + orZero order.dropoffDetentionMinutes
  worth : orZero order.detentionAmount = order.worthOf cfg ledger.due

/-- So it is with the order that an id names. -/
def WaitsCharged (cfg : DispatchConfig) (id : Nat) (board : Board) : Prop :=
  ∀ order, board.order id = some order → ChargedOnce cfg (board.ledger id) order

/-- A move that is not charged for brings nothing of worth due. -/
def LeftFree (cfg : DispatchConfig) (board : Board) (order : DispatchOrder) (status : OrderStatus) : Prop :=
  order.worthOf cfg ((board.ledger order.id).comesDue status board.now) = 0

/-- The latest entry is an arrival somewhere. -/
def Board.arrivedAt (board : Board) (id : Nat) (status : OrderStatus) : Prop :=
  ∃ entry ∈ (board.ledger id).last, entry.newStatus = status

/-- Leaving the pickup, an order has nothing charged for it there yet, and the wait that is read is the one it ends. -/
structure PickupOnce (cfg : DispatchConfig) (board : Board) (order : DispatchOrder) : Prop where
  first : (board.waitedSince order.id .atPickup).isSome →
    orZero order.pickupDetentionAmount = 0 ∧ orZero order.pickupDetentionMinutes = 0
  own : board.arrivedAt order.id .atPickup ∨ order.worth cfg (board.waitedSince order.id .atPickup) = 0

/-- Delivered, an order has nothing charged for it at the drop yet, and the wait that is read is the last one there. -/
structure DropOnce (cfg : DispatchConfig) (board : Board) (order : DispatchOrder) : Prop where
  first : (board.waitedSince order.id .arrived).isSome →
    orZero order.dropoffDetentionAmount = 0 ∧ orZero order.dropoffDetentionMinutes = 0
  own : board.arrivedAt order.id .arrived ∨
    order.worth cfg (board.waitedSince order.id .arrived) = order.worth cfg (board.ledger order.id).atDrop

/-- An event charges for the waits that it ends, once. -/
def ChargesOnce (cfg : DispatchConfig) (id : Nat) (board : Board) : WaitEvent → Prop
  | .updateOrderStatus requester target asked _ _ => ∀ order status,
    statusChange cfg board requester target asked = .ok (order, status) → target = id →
      requester.role = .driver ∨ status ∉ arrivalStatuses →
        order.status = .atPickup → PickupOnce cfg board order
  -- A stop that is done moves its order, and a force moves any, without a look at what it has waited.
  | .updateStop requester stopId asked reason => ∀ stop trip order,
    stopChange cfg board requester stopId asked reason = .ok (stop, trip, .done) → stop.orderId = id →
      board.order id = some order → order.status ≠ stopCompletionOrderStatus stop.kind →
        LeftFree cfg board order (stopCompletionOrderStatus stop.kind)
  | .forceOrderStatus requester target asked reason => ∀ status order,
    requester.role = .admin → asked = some status → 10 ≤ (trim reason.toList).length → target = id →
      board.order id = some order → order.status ≠ status → LeftFree cfg board order status
  | .confirmDelivery requester target proof => ∀ order, target = id → board.order id = some order →
    Confirmable cfg board requester order proof → DropOnce cfg board order
  | .passes _ => True

/-- What the log says is in order: its latest entry is the newest, and an arrival in it is where the order stands. -/
structure Timed (id : Nat) (board : Board) : Prop where
  there : ∃ order, board.order id = some order
  latest : ∀ last ∈ (board.ledger id).last, ∀ entry ∈ board.historyOf id, entry.changedAt ≤ last.changedAt
  past : ∀ entry ∈ board.historyOf id, entry.changedAt ≤ board.now
  stands : ∀ order, board.order id = some order →
    ∀ last ∈ (board.ledger id).last, last.newStatus ∈ arrivalStatuses → order.status = last.newStatus

/-- An order that has arrived nowhere yet, and has nothing charged for. -/
structure Unwaited (id : Nat) (board : Board) : Prop where
  there : ∃ order, board.order id = some order
  entries : ∀ entry ∈ board.historyOf id, entry.newStatus ∉ arrivalStatuses ∧ entry.changedAt ≤ board.now
  sorted : (board.historyOf id).Pairwise fun one other => one.changedAt ≤ other.changedAt
  uncharged : ∀ order, board.order id = some order →
    orZero order.detentionAmount = 0 ∧ orZero order.detentionMinutes = 0 ∧
    orZero order.pickupDetentionAmount = 0 ∧ orZero order.pickupDetentionMinutes = 0 ∧
    orZero order.dropoffDetentionAmount = 0 ∧ orZero order.dropoffDetentionMinutes = 0

variable {cfg : DispatchConfig} {board later : Board} {id : Nat} {order next : DispatchOrder}

section Ledgers

/-- The latest of some entries that are read is the last one. -/
theorem foldl_enter_last (entries : List StatusLog) :
    (entries.foldl WaitLedger.enter {}).last = entries.getLast? := by
  -- Entries are taken off the end: reading one more leaves it the latest.
  cases entries using List.reverseRecOn with
  | nil => rfl
  | append_singleton before entry =>
    rw [List.foldl_append, List.getLast?_concat]
    rfl

/-- So it is with the log of an order. -/
theorem ledger_last : (board.ledger id).last = (board.historyOf id).getLast? := foldl_enter_last _

/-- A log that goes on is read on. -/
theorem ledger_append {entry : StatusLog} (history : later.historyOf id = board.historyOf id ++ [entry]) :
    later.ledger id = (board.ledger id).enter entry := by
  -- The log is read from its beginning, entry by entry.
  unfold Board.ledger
  rw [history, List.foldl_append]
  rfl

/-- A log that does not is read as it was. -/
theorem ledger_congr (history : later.historyOf id = board.historyOf id) : later.ledger id = board.ledger id := by
  -- The ledger is what is read off the history.
  unfold Board.ledger
  rw [history]

/-- Where the latest entry has the order elsewhere, there is no stay. -/
theorem stayed_elsewhere {status : OrderStatus} (elsewhere : ¬ board.arrivedAt id status) (now : Nat) :
    (board.ledger id).stayed status now = none := by
  -- Only an entry that has the order there begins a stay.
  unfold WaitLedger.stayed
  rw [Option.map_eq_none_iff, Option.filter_eq_none_iff]
  intro entry last is
  exact elsewhere ⟨entry, last, of_decide_eq_true is⟩

/-- The wait that the code reads is the stay in progress, where the latest entry began it. -/
theorem waitedSince_stayed {status : OrderStatus} (timed : Timed id board) (arrived : board.arrivedAt id status) :
    board.waitedSince id status = (board.ledger id).stayed status board.now := by
  obtain ⟨last, read, rfl⟩ := arrived
  have listed : last ∈ board.historyOf id := List.mem_of_getLast? (ledger_last ▸ read)
  -- It is the newest entry of all, and so of those that say where it is.
  have newest : ((board.logs.filter fun log => log.orderId = id && log.newStatus = last.newStatus).map
      StatusLog.changedAt).max? = some last.changedAt := by
    rw [List.max?_eq_some_iff]
    obtain ⟨member, own⟩ := List.mem_filter.mp listed
    constructor
    · exact List.mem_map.mpr ⟨last, List.mem_filter.mpr ⟨member, by simpa using own⟩, rfl⟩
    · intro time there
      obtain ⟨entry, kept, rfl⟩ := List.mem_map.mp there
      obtain ⟨member, is⟩ := List.mem_filter.mp kept
      rw [Bool.and_eq_true] at is
      exact timed.latest last read entry (List.mem_filter.mpr ⟨member, is.1⟩)
  have read' : (board.ledger id).last = some last := read
  unfold Board.waitedSince WaitLedger.stayed
  dsimp only
  rw [newest, read']
  simp [Option.filter]

/-- A wait is charged for wherever one is read. -/
theorem detentionForOrder_isSome (order : Order) (waited : Option ℚ) :
    (order.detentionForOrder cfg.rateOf waited).isSome = waited.isSome := by
  -- The minutes are rounded to something that is not negative, so the charge is not refused.
  cases waited with
  | none => rfl
  | some minutes =>
    have proper : ¬ max 0 (mathRound minutes) < 0 := not_lt.mpr (le_max_left _ _)
    simp only [Order.detentionForOrder, Option.bind_some]
    split
    · rfl
    · simp [detentionCharge, proper, Except.toOption]

end Ledgers

section Bills

/-- Where an order is waited for. -/
inductive WaitPlace where
  | pickup
  | drop
  deriving DecidableEq

/-- What an order has on its account for waiting, with nothing for no entry, and the card it is charged on. -/
structure Bill where
  pricingRateId : Option Nat
  minutesAt : WaitPlace → ℚ
  amountAt : WaitPlace → ℚ
  minutes : ℚ
  amount : ℚ

/-- The bill of an order. -/
def DispatchOrder.bill (order : DispatchOrder) : Bill where
  pricingRateId := order.pricingRateId
  minutesAt
    | .pickup => orZero order.pickupDetentionMinutes
    | .drop => orZero order.dropoffDetentionMinutes
  amountAt
    | .pickup => orZero order.pickupDetentionAmount
    | .drop => orZero order.dropoffDetentionAmount
  -- The two totals stand beside the two waits they are of.
  minutes := orZero order.detentionMinutes
  amount := orZero order.detentionAmount

/-- A bill with a wait charged: it is added to the totals, and written over what the place had. -/
def Bill.waited (bill : Bill) (place : WaitPlace) : Option Detention → Bill
  | none => bill
  | some wait => { bill with
      minutesAt := Function.update bill.minutesAt place wait.waitedMinutes
      amountAt := Function.update bill.amountAt place wait.detentionAmount
      minutes := bill.minutes + wait.waitedMinutes
      amount := bill.amount + wait.detentionAmount }

variable {ledger : WaitLedger} {entry : StatusLog}

/-- A wait is worth the same on the same card. -/
theorem worth_congr (rate : next.pricingRateId = order.pricingRateId) (waited : Option ℚ) :
    next.worth cfg waited = order.worth cfg waited := by
  -- The card is all that it reads of the order.
  unfold DispatchOrder.worth Order.detentionForOrder
  rw [rate]

/-- So are several. -/
theorem worthOf_congr (rate : next.pricingRateId = order.pricingRateId) (waits : List ℚ) :
    next.worthOf cfg waits = order.worthOf cfg waits := by
  -- Each is worth the same under either card.
  simp only [DispatchOrder.worthOf, worth_congr rate]

/-- Waits are worth what they are worth one by one. -/
theorem worthOf_append (first second : List ℚ) :
    order.worthOf cfg (first ++ second) = order.worthOf cfg first + order.worthOf cfg second := by
  -- It is a sum over the list.
  simp only [DispatchOrder.worthOf, List.map_append, List.sum_append]

/-- Where there may be one wait, it is worth what it is, or nothing. -/
theorem worthOf_toList (waited : Option ℚ) : order.worthOf cfg waited.toList = order.worth cfg waited := by
  -- There is no wait or one.
  cases waited with
  | none => rfl
  | some minutes => simp [DispatchOrder.worthOf]

/-- A bill that adds up, over the waits of a log. -/
theorem chargedOnce_iff_bill : ChargedOnce cfg ledger order ↔
    order.bill.amount = order.bill.amountAt .pickup + order.bill.amountAt .drop ∧
    order.bill.minutes = order.bill.minutesAt .pickup + order.bill.minutesAt .drop ∧
    order.bill.amount = order.worthOf cfg ledger.due :=
  chargedOnce_iff cfg ledger order

/-- One that is left alone adds up where nothing that is of worth comes due. -/
theorem chargedOnce_kept (charged : ChargedOnce cfg ledger order) (same : next.bill = order.bill) :
    ChargedOnce cfg (ledger.enter entry) next ↔
      order.worthOf cfg (ledger.comesDue entry.newStatus entry.changedAt) = 0 := by
  -- The bill is the same, so what came due has to be worth nothing.
  have rate : next.pricingRateId = order.pricingRateId := congrArg Bill.pricingRateId same
  obtain ⟨amounts, minutes, worth⟩ := chargedOnce_iff_bill.mp charged
  rw [chargedOnce_iff_bill, same, worthOf_congr rate, WaitLedger.enter, worthOf_append, ← worth]
  constructor
  · rintro ⟨-, -, adds⟩
    linarith
  · intro free
    exact ⟨amounts, minutes, by linarith⟩

/-- One that a wait is charged on adds up where the place had nothing before, and just that wait comes due. -/
theorem chargedOnce_waited {place : WaitPlace} {wait : Detention} (charged : ChargedOnce cfg ledger order)
    (bills : next.bill = order.bill.waited place (some wait)) :
    ChargedOnce cfg (ledger.enter entry) next ↔
      (order.bill.amountAt place = 0 ∧ order.bill.minutesAt place = 0) ∧
        wait.detentionAmount = order.worthOf cfg (ledger.comesDue entry.newStatus entry.changedAt) := by
  have rate : next.pricingRateId = order.pricingRateId := congrArg Bill.pricingRateId bills
  obtain ⟨amounts, minutes, worth⟩ := chargedOnce_iff_bill.mp charged
  rw [chargedOnce_iff_bill, bills, worthOf_congr rate, WaitLedger.enter, worthOf_append, ← worth]
  -- What is written over at one end stays in the totals, and the other end is left alone.
  have ends : ∀ {total new : ℚ} {each : WaitPlace → ℚ}, total = each .pickup + each .drop →
      (total + new = Function.update each place new .pickup + Function.update each place new .drop ↔
        each place = 0) := by
    intro total new each adds
    cases place with
    | pickup =>
      rw [Function.update_self, Function.update_of_ne (by decide), adds]
      constructor <;> intro <;> linarith
    | drop =>
      rw [Function.update_self, Function.update_of_ne (by decide), adds]
      constructor <;> intro <;> linarith
  simp only [Bill.waited]
  rw [ends amounts, ends minutes, and_assoc, add_right_inj]

end Bills

section Moves

variable {target : Nat} {status : OrderStatus} {changedBy : String}

/-- An entry is read in the log of its own order only. -/
theorem historyOf_logged (previous : OrderStatus) :
    (board.logged target previous status changedBy).historyOf id =
      if target = id then board.historyOf id ++
        [{ orderId := target, previousStatus := previous, newStatus := status, changedBy := changedBy
           changedAt := board.now }]
      else board.historyOf id := by
  -- The entry is of one order, and the history of another leaves it out.
  unfold Board.historyOf Board.logged
  rw [List.filter_append]
  by_cases own : target = id
  · simp [own]
  · simp [own]

/-- What is charged depends on the log and on the bill. -/
theorem waitsCharged_kept (history : later.historyOf id = board.historyOf id)
    (bills : (later.order id).map DispatchOrder.bill = (board.order id).map DispatchOrder.bill) :
    WaitsCharged cfg id later ↔ WaitsCharged cfg id board := by
  unfold WaitsCharged
  rw [ledger_congr history]
  cases before : board.order id with
  | none =>
    rw [before, Option.map_none, Option.map_eq_none_iff] at bills
    simp [bills]
  | some order =>
    rw [before, Option.map_some] at bills
    obtain ⟨next, after, same⟩ := Option.map_eq_some_iff.mp bills
    -- The rate that a wait is priced at is part of the bill.
    have rate : next.pricingRateId = order.pricingRateId := congrArg Bill.pricingRateId same
    simp only [after, Option.some.injEq, forall_eq', chargedOnce_iff_bill, same, worthOf_congr rate]

/-- Of an order that moves, what is asked is asked of the log with one entry more. -/
theorem waitsCharged_moved {change : DispatchOrder → DispatchOrder}
    {keeps : ∀ order : DispatchOrder, (change order).id = order.id} (found : board.order id = some order)
    (previous : OrderStatus) :
    WaitsCharged cfg id ((board.changeOrder id change keeps).logged id previous status changedBy) ↔
      ChargedOnce cfg ((board.ledger id).enter
        { orderId := id, previousStatus := previous, newStatus := status, changedBy := changedBy
          changedAt := board.now }) (change order) := by
  -- The row that is read next is the one just changed, and the log has one entry more about it.
  have after : ((board.changeOrder id change keeps).logged id previous status changedBy).order id =
      some (change order) := by
    have changed := board.order_changeOrder id change keeps id
    rw [if_pos rfl, found, Option.map_some] at changed
    exact changed
  have history := @historyOf_logged (board.changeOrder id change keeps) id id status changedBy previous
  rw [if_pos rfl] at history
  unfold WaitsCharged
  rw [ledger_append history]
  simp only [after, Option.some.injEq, forall_eq']
  rfl

/-- A move without a charge is right where it brings nothing of worth due. -/
theorem movedTo_charged (charged : WaitsCharged cfg id board) (found : board.order id = some order)
    (keeps : ∀ order : DispatchOrder, (order.movedTo status).id = order.id) (previous : OrderStatus) :
    WaitsCharged cfg id ((board.changeOrder id (.movedTo status) keeps).logged id previous status changedBy) ↔
      LeftFree cfg board order status := by
  -- A move alone leaves the bill as it is.
  have own : order.id = id := (Table.find?_eq_some.mp found).2
  have same : (order.movedTo status).bill = order.bill := rfl
  rw [waitsCharged_moved found, chargedOnce_kept (charged order found) same, LeftFree, own]

/-- A change of one order is a change of no other. -/
theorem bills_changeOrder {change : DispatchOrder → DispatchOrder}
    {keeps : ∀ order : DispatchOrder, (change order).id = order.id}
    (same : id = target → ∀ order : DispatchOrder, (change order).bill = order.bill) :
    ((board.changeOrder target change keeps).order id).map DispatchOrder.bill =
      (board.order id).map DispatchOrder.bill := by
  -- Another order's row is not written, and this one's bill is the same.
  rw [board.order_changeOrder target change keeps id]
  split
  · rename_i own
    rw [Option.map_map]
    exact congrFun (congrArg Option.map (funext (same own))) _
  · rfl

/-- Where a write leaves the bill alone, and the log, nothing changes. -/
theorem waitsCharged_changeOrder {change : DispatchOrder → DispatchOrder}
    {keeps : ∀ order : DispatchOrder, (change order).id = order.id}
    (same : id = target → ∀ order : DispatchOrder, (change order).bill = order.bill) :
    WaitsCharged cfg id (board.changeOrder target change keeps) ↔ WaitsCharged cfg id board := by
  -- Neither the history nor the bill has changed.
  have history : (board.changeOrder target change keeps).historyOf id = board.historyOf id := rfl
  exact waitsCharged_kept history (bills_changeOrder same)

/-- Nor does it where another order moves. -/
theorem waitsCharged_elsewhere {change : DispatchOrder → DispatchOrder}
    {keeps : ∀ order : DispatchOrder, (change order).id = order.id} (other : target ≠ id)
    (previous : OrderStatus) :
    WaitsCharged cfg id ((board.changeOrder target change keeps).logged target previous status changedBy) ↔
      WaitsCharged cfg id board := by
  -- The entry and the change are another order's.
  have history : ((board.changeOrder target change keeps).logged target previous status changedBy).historyOf id =
      board.historyOf id := by
    rw [historyOf_logged, if_neg other]
    rfl
  exact waitsCharged_kept history (@bills_changeOrder board id target change keeps fun own => absurd own.symm other)

end Moves

section Charging

variable {requester : Requester} {target : Nat}

/-- A status update that leaves the pickup bills the wait there, and any other leaves the bill alone. -/
theorem statusUpdated_bill {status : OrderStatus} (code : String) (moves : order.toOrder.movesTo status = true)
    (allowed : canTransition order.status status = true) :
    (order.statusUpdated cfg board status code).bill =
      if order.status = .atPickup then
        order.bill.waited .pickup (order.toOrder.detentionForOrder cfg.rateOf (board.waitedSince order.id .atPickup))
      else order.bill := by
  have money : (order.statusUpdated cfg board status code).toOrder =
      order.toOrder.statusUpdated cfg.rateOf status (board.waitedSince order.id .atPickup) := by
    simp only [DispatchOrder.statusUpdated]
    split
    · exact codeIssued_money _ _
    · rfl
  unfold Order.statusUpdated at money
  rw [if_pos moves] at money
  simp only at money
  split
  · rename_i was
    -- Nothing goes from the pickup to the pickup.
    have leaves : order.status = .atPickup ∧ status ≠ .atPickup := by
      refine ⟨was, ?_⟩
      rintro rfl
      rw [was] at allowed
      cases allowed
    rw [if_pos leaves] at money
    cases waited : order.toOrder.detentionForOrder cfg.rateOf (board.waitedSince order.id .atPickup) with
    -- Nobody knows since when the order waits, so there is nothing to bill.
    | none =>
      rw [waited] at money
      unfold DispatchOrder.bill
      rw [money]
      rfl
    -- What is billed is the wait since the order came to the pickup.
    | some wait =>
      rw [waited] at money
      unfold DispatchOrder.bill Bill.waited
      rw [money]
      simp only [Order.leftPickup, Order.pickupCharged, Bill.mk.injEq, true_and]
      refine ⟨?_, ?_, rfl, rfl⟩
      all_goals
        funext place
        cases place <;> rfl
  -- An order that was not at the pickup is not billed for leaving it.
  · rename_i elsewhere
    rw [if_neg fun leaves => elsewhere leaves.1] at money
    unfold DispatchOrder.bill
    rw [money]

/-- A confirmation bills the wait at the drop. -/
theorem confirmed_bill :
    (order.confirmed cfg board).bill =
      order.bill.waited .drop (order.toOrder.detentionForOrder cfg.rateOf (board.waitedSince order.id .arrived)) := by
  -- What the row gets at the drop is the wait read off the log, if there is one.
  unfold DispatchOrder.confirmed
  cases order.toOrder.detentionForOrder cfg.rateOf (board.waitedSince order.id .arrived) with
  | none => simp [DispatchOrder.bill, Bill.waited, Order.delivered]
  | some wait =>
    simp only [DispatchOrder.bill, Bill.waited, Order.delivered, Bill.mk.injEq, true_and]
    refine ⟨?_, ?_, rfl, rfl⟩
    all_goals
      funext place
      cases place <;> rfl

/-- Where the log has an order elsewhere, no stay of it there ends. -/
theorem not_arrivedAt {status : OrderStatus} (timed : Timed id board) (found : board.order id = some order)
    (arrival : status ∈ arrivalStatuses) (elsewhere : order.status ≠ status) : ¬ board.arrivedAt id status := by
  -- A stay that ends now began with the last arrival read, which is where the order still stands.
  rintro ⟨last, read, rfl⟩
  exact elsewhere (timed.stands order found last read arrival)

/-- The wait that the code reads is worth the one that comes due, where the latest entry began it or else by chance. -/
theorem worth_read_iff {status : OrderStatus} (timed : Timed id board) (elsewhere : Option ℚ) :
    order.worth cfg (board.waitedSince id status) =
        order.worth cfg (((board.ledger id).stayed status board.now).or elsewhere) ↔
      board.arrivedAt id status ∨
        order.worth cfg (board.waitedSince id status) = order.worth cfg elsewhere := by
  -- Where the latest entry is the arrival, what is read is the stay itself; elsewhere no stay comes due.
  by_cases arrived : board.arrivedAt id status
  · refine iff_of_true ?_ (.inl arrived)
    rw [waitedSince_stayed timed arrived]
    obtain ⟨last, read, is⟩ := arrived
    have read' : (board.ledger id).last = some last := read
    simp [WaitLedger.stayed, Option.filter, read', is]
  · rw [stayed_elsewhere arrived, Option.none_or]
    simp [arrived]

/-- Charging for a wait is right where that is the first time, and it is worth what comes due. -/
theorem chargedOnce_read {ledger : WaitLedger} {entry : StatusLog} {place : WaitPlace} {waited : Option ℚ}
    (charged : ChargedOnce cfg ledger order)
    (bills : next.bill = order.bill.waited place (order.toOrder.detentionForOrder cfg.rateOf waited)) :
    ChargedOnce cfg (ledger.enter entry) next ↔
      (waited.isSome → order.bill.amountAt place = 0 ∧ order.bill.minutesAt place = 0) ∧
        order.worth cfg waited = order.worthOf cfg (ledger.comesDue entry.newStatus entry.changedAt) := by
  have known := @detentionForOrder_isSome cfg order.toOrder waited
  -- A wait that is free leaves the bill as it was, and one that costs is added to it.
  cases priced : order.toOrder.detentionForOrder cfg.rateOf waited with
  | none =>
    rw [priced] at bills known
    have free : order.worth cfg waited = 0 := by rw [DispatchOrder.worth, priced]; rfl
    rw [chargedOnce_kept charged bills, ← known, free]
    simp [eq_comm]
  | some wait =>
    rw [priced] at bills known
    have worth : order.worth cfg waited = wait.detentionAmount := by rw [DispatchOrder.worth, priced]; rfl
    rw [chargedOnce_waited charged bills, ← known, worth]
    simp

/-- So a status update charges right in leaving the pickup. -/
theorem leftPickup_charged {entry : StatusLog} (timed : Timed order.id board)
    (charged : ChargedOnce cfg (board.ledger order.id) order)
    (bills : next.bill = order.bill.waited .pickup
      (order.toOrder.detentionForOrder cfg.rateOf (board.waitedSince order.id .atPickup)))
    (leaves : entry.newStatus ≠ .delivered) (at_ : entry.changedAt = board.now) :
    ChargedOnce cfg ((board.ledger order.id).enter entry) next ↔ PickupOnce cfg board order := by
  -- Leaving the pickup for anywhere but the delivery makes the stay there due, and nothing else.
  have due : order.worthOf cfg ((board.ledger order.id).comesDue entry.newStatus entry.changedAt) =
      order.worth cfg (((board.ledger order.id).stayed .atPickup board.now).or none) := by
    rw [WaitLedger.comesDue, if_neg leaves, List.append_nil, worthOf_toList, at_, Option.or_none]
  rw [chargedOnce_read charged bills, due, worth_read_iff timed]
  exact ⟨fun ⟨first, own⟩ => ⟨first, own⟩, fun ⟨first, own⟩ => ⟨first, own⟩⟩

/-- A confirmation charges right in leaving the drop. -/
theorem leftDrop_charged {entry : StatusLog} (timed : Timed order.id board)
    (charged : ChargedOnce cfg (board.ledger order.id) order)
    (bills : next.bill = order.bill.waited .drop
      (order.toOrder.detentionForOrder cfg.rateOf (board.waitedSince order.id .arrived)))
    (found : board.order order.id = some order) (arrived : order.status = .arrived)
    (delivers : entry.newStatus = .delivered) (at_ : entry.changedAt = board.now) :
    ChargedOnce cfg ((board.ledger order.id).enter entry) next ↔ DropOnce cfg board order := by
  -- An order that has arrived at its drop waits at no pickup any more.
  have gone : ¬ board.arrivedAt order.id .atPickup :=
    not_arrivedAt timed found (by decide) (by rw [arrived]; decide)
  -- So what comes due is the wait at the drop: this one, or the one on record.
  have due : order.worthOf cfg ((board.ledger order.id).comesDue entry.newStatus entry.changedAt) =
      order.worth cfg (((board.ledger order.id).stayed .arrived board.now).or (board.ledger order.id).atDrop) := by
    rw [WaitLedger.comesDue, if_pos delivers, at_, stayed_elsewhere gone, Option.toList_none, List.nil_append,
      worthOf_toList, WaitLedger.leftDrop]
  rw [chargedOnce_read charged bills, due, worth_read_iff timed]
  exact ⟨fun ⟨first, own⟩ => ⟨first, own⟩, fun ⟨first, own⟩ => ⟨first, own⟩⟩

end Charging

section Steps

variable {requester : Requester} {target : Nat}

/-- A status update charges once just where leaving the pickup does. -/
theorem updateOrderStatus_chargesOnce {asked : Option OrderStatus} {code : String} {committedLater : Bool}
    (timed : Timed id board) (charged : WaitsCharged cfg id board) :
    WaitsCharged cfg id (waitStep cfg board (.updateOrderStatus requester target asked code committedLater)) ↔
      ChargesOnce cfg id board (.updateOrderStatus requester target asked code committedLater) := by
  simp only [waitStep, step, ChargesOnce]
  cases done : updateOrderStatus cfg board requester target asked code with
  | error failure =>
    -- Refused, it bills nobody, and its checks do not all pass.
    refine iff_of_true ?_ ?_
    · simp only [afterRefusedStatus]
      split
      · split
        · refine (waitsCharged_changeOrder ?_).mpr charged
          exact fun _ _ => rfl
        · exact charged
      · exact charged
    · intro order status passes _ records
      obtain ⟨later, made⟩ := (updateOrderStatus_ok_iff passes).mpr records
      rw [made] at done
      cases done
  | ok later =>
    obtain ⟨row, status, passes, records, rfl⟩ := updateOrderStatus_accepted.mp done
    have records' : requester.role = .driver ∨ status ∉ arrivalStatuses := by
      simpa [mayRecord] using records
    have asked_is : (∀ order moved, statusChange cfg board requester target asked = .ok (order, moved) →
        target = id → requester.role = .driver ∨ moved ∉ arrivalStatuses → order.status = .atPickup →
          PickupOnce cfg board order) ↔
        (target = id → row.status = .atPickup → PickupOnce cfg board row) := by
      constructor
      · exact fun all own was => all row status passes own records' was
      · intro each order moved passes' own _ was
        cases passes.symm.trans passes'
        exact each own was
    rw [asked_is]
    obtain ⟨rfl, found, allowed, moves⟩ := statusChange_ok passes
    have own : row.id = target := (Table.find?_eq_some.mp found).2
    by_cases same : target = id
    · subst same
      subst own
      have undelivered : status ≠ .delivered := not_delivered_of_canTransition allowed
      have bill := @statusUpdated_bill cfg board row status code moves allowed
      rw [waitsCharged_moved found]
      by_cases was : row.status = .atPickup
      · rw [if_pos was] at bill
        rw [leftPickup_charged timed (charged row found) bill undelivered rfl]
        exact ⟨fun once _ _ => once, fun once => once rfl was⟩
      · rw [if_neg was] at bill
        -- It was not at the pickup, and nothing comes due.
        have gone : ¬ board.arrivedAt row.id .atPickup := not_arrivedAt timed found (by decide) was
        rw [chargedOnce_kept (charged row found) bill, WaitLedger.comesDue, if_neg undelivered,
          stayed_elsewhere gone]
        exact iff_of_true rfl fun _ at_pickup => absurd at_pickup was
    · exact iff_of_true ((waitsCharged_elsewhere same _).mpr charged) fun own => absurd own same

/-- A force charges for nothing, and so is right where nothing of worth comes due. -/
theorem forceOrderStatus_chargesOnce {asked : Option OrderStatus} {reason : String}
    (charged : WaitsCharged cfg id board) :
    WaitsCharged cfg id (waitStep cfg board (.forceOrderStatus requester target asked reason)) ↔
      ChargesOnce cfg id board (.forceOrderStatus requester target asked reason) := by
  simp only [waitStep, fleetStep, ChargesOnce]
  cases done : forceOrderStatus board requester target asked reason with
  | error failure =>
    refine iff_of_true charged fun status order admin asks reasoned own found changes => ?_
    subst asks own
    -- A force that passes its checks is never refused.
    have made : ∃ later, forceOrderStatus board requester target (some status) reason = .ok later := by
      exact ⟨_, forceOrderStatus_accepted.mpr ⟨admin, status, rfl, reasoned, order, found, changes, rfl⟩⟩
    obtain ⟨later, made⟩ := made
    rw [made] at done
    cases done
  | ok later =>
    obtain ⟨admin, status, rfl, reasoned, row, found, changes, rfl⟩ := forceOrderStatus_accepted.mp done
    dsimp only
    -- A force of another order neither writes this row nor enters anything about it.
    by_cases same : target = id
    · subst same
      refine (movedTo_charged charged found _ row.status).trans ?_
      constructor
      · intro free moved order _ asked _ _ found' _
        cases asked
        cases found.symm.trans found'
        exact free
      · exact fun each => each status row admin rfl reasoned rfl found changes
    · exact iff_of_true ((waitsCharged_elsewhere same _).mpr charged) fun _ _ _ _ _ own => absurd own same

/-- A stop that is done moves its order, and charges for nothing either. -/
theorem updateStop_chargesOnce {stopId : Nat} {asked : Option StopStatus} {reason : Option String}
    (charged : WaitsCharged cfg id board) :
    WaitsCharged cfg id (waitStep cfg board (.updateStop requester stopId asked reason)) ↔
      ChargesOnce cfg id board (.updateStop requester stopId asked reason) := by
  simp only [waitStep, step, ChargesOnce]
  cases done : updateStop cfg board requester stopId asked reason with
  -- A refused update leaves the order as it was.
  | error failure =>
    refine iff_of_true charged fun stop trip order passes => ?_
    simp [updateStop, passes] at done
  | ok later =>
    obtain ⟨stop, trip, status, passes, orders, logs, -⟩ := updateStop_orders done
    have asked_is : (∀ stop trip order, stopChange cfg board requester stopId asked reason = .ok (stop, trip, .done) →
        stop.orderId = id → board.order id = some order → order.status ≠ stopCompletionOrderStatus stop.kind →
          LeftFree cfg board order (stopCompletionOrderStatus stop.kind)) ↔
        (status = .done → stop.orderId = id → ∀ order, board.order id = some order →
          order.status ≠ stopCompletionOrderStatus stop.kind →
            LeftFree cfg board order (stopCompletionOrderStatus stop.kind)) := by
      constructor
      · rintro each rfl own order found
        exact each stop trip order passes own found
      · intro each stop' trip' order passes' own found
        cases passes.symm.trans passes'
        exact each rfl own order found
    rw [asked_is]
    -- What counts of the stop is what it does to its order.
    have same : WaitsCharged cfg id later ↔
        WaitsCharged cfg id (if status = .done then board.completed stop requester.username else board) := by
      refine waitsCharged_kept ?_ ?_
      · unfold Board.historyOf
        rw [logs]
      · unfold Board.order
        rw [orders]
    dsimp only [committed]
    rw [same]
    -- Only a stop that is done says anything about its order.
    by_cases completes : status = .done
    · rw [if_pos completes]
      subst completes
      unfold Board.completed
      cases found : board.order stop.orderId with
      | none =>
        refine iff_of_true charged fun _ own order found' => ?_
        rw [own, found'] at found
        cases found
      | some row =>
        dsimp only
        -- An order that is there already does not move again.
        by_cases there : row.status = stopCompletionOrderStatus stop.kind
        · rw [if_pos there]
          refine iff_of_true charged fun _ own order found' changes => ?_
          rw [own, found'] at found
          cases found
          exact absurd there changes
        · rw [if_neg there]
          -- It is this order that moves, or another.
          by_cases own : stop.orderId = id
          · subst own
            refine (movedTo_charged charged found _ row.status).trans ⟨?_, ?_⟩
            · intro free _ _ order found' _
              cases found.symm.trans found'
              exact free
            · exact fun each => each rfl rfl row found there
          · exact iff_of_true ((waitsCharged_elsewhere own _).mpr charged) fun _ same => absurd same own
    · rw [if_neg completes]
      exact iff_of_true charged fun done => absurd done completes

/-- A confirmation charges once just where leaving the drop does. -/
theorem confirmDelivery_chargesOnce {proof : DeliveryProof}
    (timed : Timed id board) (charged : WaitsCharged cfg id board) :
    WaitsCharged cfg id (waitStep cfg board (.confirmDelivery requester target proof)) ↔
      ChargesOnce cfg id board (.confirmDelivery requester target proof) := by
  simp only [waitStep, step, ChargesOnce]
  cases done : confirmDelivery cfg board requester target proof with
  -- What is refused could not have been confirmed.
  | error failure =>
    refine iff_of_true ?_ fun order own found confirmable => ?_
    · dsimp only [afterRefusedProof]
      split
      · refine (waitsCharged_changeOrder ?_).mpr charged
        exact fun _ _ => rfl
      · exact charged
    · subst own
      obtain ⟨later, made⟩ := (confirmDelivery_ok_iff found).mpr confirmable
      rw [made] at done
      cases done
  | ok later =>
    have accepted : ∃ written, confirmDelivery cfg board requester target proof = .ok written := ⟨later, done⟩
    obtain ⟨method, proven, row, found, was, answers, rfl⟩ := confirmDelivery_accepted.mp done
    have own : row.id = target := (Table.find?_eq_some.mp found).2
    have arrived : row.status = .arrived := List.mem_singleton.mp (List.contains_iff_mem.mp was)
    dsimp only
    -- It is this order that is confirmed, or another.
    by_cases same : target = id
    · subst same
      subst own
      have written := @waitsCharged_moved cfg board row.id row .delivered requester.username
        (fun order => order.confirmed cfg board) (fun _ => rfl) found row.status
      refine (waitsCharged_kept rfl rfl).trans (written.trans ?_)
      rw [leftDrop_charged timed (charged row found) confirmed_bill found arrived rfl rfl]
      constructor
      · intro once order _ found' _
        cases found.symm.trans found'
        exact once
      · exact fun each => each row rfl found ((confirmDelivery_ok_iff found).mp accepted)
    · refine iff_of_true ((waitsCharged_kept rfl rfl).mpr ((waitsCharged_elsewhere same _).mpr charged)) ?_
      exact fun _ own => absurd own same

/-- What is charged is right after an event just where the event charges once. -/
theorem waitStep_chargesOnce (timed : Timed id board) (charged : WaitsCharged cfg id board) (event : WaitEvent) :
    WaitsCharged cfg id (waitStep cfg board event) ↔ ChargesOnce cfg id board event := by
  -- Each kind of event has a lemma of its own, and time charges nobody.
  cases event with
  | updateOrderStatus => exact updateOrderStatus_chargesOnce timed charged
  | updateStop => exact updateStop_chargesOnce charged
  | forceOrderStatus => exact forceOrderStatus_chargesOnce charged
  | confirmDelivery => exact confirmDelivery_chargesOnce timed charged
  | passes elapsed => exact iff_of_true charged trivial

end Steps

section Times

/-- Entries are made at the time they are made. -/
structure Stamped (board later : Board) : Prop where
  entries : ∃ added, later.logs = board.logs ++ added ∧ ∀ log ∈ added, log.changedAt = board.now
  now : later.now = board.now

/-- Without an entry there is none to stamp. -/
theorem stamped_same (logs : later.logs = board.logs) (now : later.now = board.now) : Stamped board later :=
  ⟨⟨[], by simp [logs], by simp⟩, now⟩

/-- One entry is stamped. -/
theorem stamped_logged {entry : StatusLog} (logs : later.logs = board.logs ++ [entry])
    (at_ : entry.changedAt = board.now) (now : later.now = board.now) : Stamped board later :=
  ⟨⟨[entry], logs, by simpa using at_⟩, now⟩

/-- The last of some moves leads where they lead. -/
theorem trail_last {start finish : OrderStatus} {moves : List StatusLog} {last : StatusLog}
    (trail : Trail StatusLog.previousStatus StatusLog.newStatus start moves finish)
    (ends : moves.getLast? = some last) : last.newStatus = finish := by
  -- The trail splits before its last move, which leads to the finish.
  obtain ⟨before, rfl⟩ := List.getLast?_eq_some_iff.mp ends
  obtain ⟨between, -, leads⟩ := trail_append.mp trail
  exact leads.2

/-- A log stays in order as what is done to the status is entered, with its time. -/
theorem Timed.logs (timed : Timed id board) (logs : Logs board later id) (stamped : Stamped board later) :
    Timed id later := by
  obtain ⟨⟨added, written, at_⟩, now⟩ := stamped
  have history : later.historyOf id = board.historyOf id ++ added.filter fun log => log.orderId = id := by
    unfold Board.historyOf
    rw [written, List.filter_append]
  have made : ∀ entry ∈ added.filter fun log => log.orderId = id, entry.changedAt = board.now :=
    fun entry member => at_ entry (List.mem_filter.mp member).1
  have past : ∀ entry ∈ later.historyOf id, entry.changedAt ≤ board.now := by
    intro entry member
    rw [history, List.mem_append] at member
    rcases member with before | new
    · exact timed.past entry before
    · exact (made entry new).le
  obtain ⟨order, before⟩ := timed.there
  obtain ⟨next, told, after, tells, trail⟩ := logs.found order before
  obtain rfl : told = added.filter fun log => log.orderId = id := List.append_cancel_left (tells.symm.trans history)
  cases newest : (added.filter fun log => log.orderId = id).getLast? with
  | none =>
    -- Nothing is entered, and the order is where it was.
    rw [List.getLast?_eq_none_iff] at newest
    rw [newest] at trail history
    rw [List.append_nil] at history
    have stays : order.status = next.status := trail
    refine ⟨⟨next, after⟩, ?_, by rw [now]; exact past, ?_⟩
    · rw [ledger_congr history, history]
      exact timed.latest
    · intro next' after' last read arrival
      cases after.symm.trans after'
      rw [ledger_congr history] at read
      rw [← stays]
      exact timed.stands order before last read arrival
  | some last =>
    -- What is entered last is the newest, and leads to where the order is.
    have latest : (later.ledger id).last = some last := by
      rw [ledger_last, history, List.getLast?_append, newest]
      rfl
    have own : last ∈ added.filter fun log => log.orderId = id := List.mem_of_getLast? newest
    refine ⟨⟨next, after⟩, ?_, by rw [now]; exact past, ?_⟩
    · intro last' read entry member
      cases latest.symm.trans read
      rw [made last own]
      exact past entry member
    · intro next' after' last' read _
      cases after.symm.trans after'
      cases latest.symm.trans read
      exact (trail_last trail newest).symm

/-- It stays in order as well where a bare UPDATE moves the order from where it has not arrived. -/
theorem Timed.kept (timed : Timed id board) (history : later.historyOf id = board.historyOf id)
    (now : board.now ≤ later.now) (statuses : ∀ order, board.order id = some order →
      ∃ next, later.order id = some next ∧ (order.status ∈ arrivalStatuses → next.status = order.status)) :
    Timed id later := by
  obtain ⟨order, before⟩ := timed.there
  obtain ⟨next, after, stays⟩ := statuses order before
  -- The log is the same, so only the row that its last arrival is compared with may differ.
  refine ⟨⟨next, after⟩, ?_, ?_, ?_⟩
  · rw [ledger_congr history, history]
    exact timed.latest
  · rw [history]
    exact fun entry member => (timed.past entry member).trans now
  · intro next' after' last read arrival
    cases after.symm.trans after'
    rw [ledger_congr history] at read
    have stood := timed.stands order before last read arrival
    rw [stays (stood ▸ arrival), stood]

/-- From where an order has arrived it never goes to an arrival by the table. -/
theorem not_arrived_of_arrives {source status : OrderStatus} (allowed : canTransition source status = true)
    (arrives : status ∈ arrivalStatuses) : source ∉ arrivalStatuses := by
  -- Every pair of statuses, against the table.
  revert allowed arrives
  cases source <;> cases status <;> decide

/-- A stop that is done enters what it does to its order with the time. -/
theorem updateStop_stamped {requester : Requester} {stopId : Nat} {asked : Option StopStatus}
    {reason : Option String} (done : updateStop cfg board requester stopId asked reason = .ok later) :
    Stamped board later := by
  -- Completing a stop writes one entry at most, with the time of the board.
  have entered : ∀ stop changedBy, Stamped board (board.completed stop changedBy) := by
    intro stop changedBy
    unfold Board.completed
    split
    · exact stamped_same rfl rfl
    · dsimp only
      split
      · exact stamped_same rfl rfl
      · exact stamped_logged rfl rfl rfl
  obtain ⟨stop, trip, status, -, -, logs, -, now⟩ := updateStop_orders done
  refine ⟨?_, ?_⟩
  · rw [logs]
    split
    · exact (entered stop requester.username).entries
    · exact ⟨[], by simp, by simp⟩
  · -- Neither the stop nor its run nor its order touches the clock.
    exact now

/-- No event brings the log out of order. -/
theorem timed_step (timed : Timed id board) (event : WaitEvent) : Timed id (waitStep cfg board event) := by
  cases event with
  | updateOrderStatus requester target asked code committedLater =>
    simp only [waitStep, step]
    cases done : updateOrderStatus cfg board requester target asked code with
    | ok later =>
      refine timed.logs (updateOrderStatus_logs done) ?_
      obtain ⟨row, status, -, -, rfl⟩ := updateOrderStatus_accepted.mp done
      -- One entry is written, with the time of the board.
      exact stamped_logged rfl rfl rfl
    | error failure =>
      simp only [afterRefusedStatus]
      split
      · rename_i row status passes
        split
        · -- Only an arrival is refused so late, and it finds the order not arrived.
          obtain ⟨rfl, found, allowed, -⟩ := statusChange_ok passes
          have arrives : status ∈ arrivalStatuses := by
            by_contra other
            obtain ⟨later, made⟩ := (@updateOrderStatus_ok_iff _ _ _ _ _ code _ _ passes).mpr (.inr other)
            rw [made] at done
            cases done
          refine @Timed.kept board _ id timed rfl (Nat.le_refl _) fun order before => ?_
          rw [board.order_changeOrder target (.movedTo status) (fun _ => rfl) id, before]
          split
          · rename_i own
            subst own
            cases found.symm.trans before
            exact ⟨_, rfl, fun arrived => absurd arrived (not_arrived_of_arrives allowed arrives)⟩
          · exact ⟨order, rfl, fun _ => rfl⟩
        · exact timed
      · exact timed
  | updateStop requester stopId asked reason =>
    simp only [waitStep, step]
    cases done : updateStop cfg board requester stopId asked reason with
    | error failure => exact timed
    | ok later =>
      exact timed.logs (updateStop_logs done) (updateStop_stamped done)
  | forceOrderStatus requester target asked reason =>
    simp only [waitStep, fleetStep]
    cases done : forceOrderStatus board requester target asked reason with
    | error failure => exact timed
    | ok later =>
      refine timed.logs (forceOrderStatus_logs done) ?_
      obtain ⟨-, status, -, -, order, -, -, rfl⟩ := forceOrderStatus_accepted.mp done
      exact stamped_logged rfl rfl rfl
  | confirmDelivery requester target proof =>
    simp only [waitStep, step]
    cases done : confirmDelivery cfg board requester target proof with
    | ok later =>
      refine timed.logs (confirmDelivery_logs done) ?_
      obtain ⟨_, -, order, -, -, -, rfl⟩ := confirmDelivery_accepted.mp done
      exact stamped_logged rfl rfl rfl
    | error failure =>
      refine timed.logs afterRefusedProof_logs (stamped_same ?_ ?_)
      all_goals
        dsimp only [afterRefusedProof]
        split <;> rfl
  | passes elapsed =>
    -- Time passes, and no entry is later than it was.
    exact timed.kept rfl (Nat.le_add_right _ _) fun order found => ⟨order, found, fun _ => rfl⟩

end Times

section Runs

/-- Where no entry is an arrival, nothing is due and nothing is waited for. -/
theorem ledger_unwaited (entries : ∀ entry ∈ board.historyOf id, entry.newStatus ∉ arrivalStatuses) :
    (board.ledger id).due = [] ∧ (board.ledger id).atDrop = none := by
  unfold Board.ledger
  revert entries
  -- Entries are taken off the end. The one before the last is no arrival, and begins no stay.
  induction board.historyOf id using List.reverseRecOn with
  | nil => exact fun _ => ⟨rfl, rfl⟩
  | append_singleton before entry ih =>
    intro entries
    obtain ⟨due, atDrop⟩ := ih fun other member => entries other (List.mem_append_left _ member)
    have stays : ∀ status ∈ arrivalStatuses, ∀ now,
        (before.foldl WaitLedger.enter {}).stayed status now = none := by
      intro status arrival now
      unfold WaitLedger.stayed
      rw [Option.map_eq_none_iff, Option.filter_eq_none_iff]
      intro last read is
      have listed : last ∈ before := List.mem_of_getLast? (foldl_enter_last before ▸ read)
      exact entries last (List.mem_append_left _ listed) (of_decide_eq_true is ▸ arrival)
    rw [List.foldl_append]
    simp only [List.foldl_cons, List.foldl_nil, WaitLedger.enter, WaitLedger.comesDue, WaitLedger.leftDrop,
      stays _ (show OrderStatus.atPickup ∈ arrivalStatuses by decide),
      stays _ (show OrderStatus.arrived ∈ arrivalStatuses by decide), due, atDrop]
    simp

/-- The log of an order that has arrived nowhere is in order. -/
theorem Unwaited.timed (unwaited : Unwaited id board) : Timed id board := by
  -- Its log has only entries that no wait is read from.
  refine ⟨unwaited.there, ?_, fun entry member => (unwaited.entries entry member).2, ?_⟩
  · intro last read entry member
    rw [ledger_last] at read
    obtain ⟨before, split⟩ := List.getLast?_eq_some_iff.mp read
    have sorted := unwaited.sorted
    rw [split] at member sorted
    rcases List.mem_append.mp member with earlier | itself
    · exact (List.pairwise_append.mp sorted).2.2 entry earlier last (List.mem_singleton_self last)
    · rw [List.mem_singleton.mp itself]
  · intro order found last read arrival
    rw [ledger_last] at read
    exact absurd arrival (unwaited.entries last (List.mem_of_getLast? read)).1

/-- Nothing is due for it, and nothing is charged. -/
theorem Unwaited.charged (unwaited : Unwaited id board) : WaitsCharged cfg id board := by
  -- With no arrival on record nothing is due, and nothing has been charged.
  intro order found
  obtain ⟨amount, minutes, pickup, pickup', drop, drop'⟩ := unwaited.uncharged order found
  have due := (ledger_unwaited fun entry member => (unwaited.entries entry member).1).1
  refine ⟨by rw [amount, pickup, drop, add_zero], by rw [minutes, pickup', drop', add_zero], ?_⟩
  rw [amount, due]
  rfl

/-- In every run of an order, its waits stay charged for once each just where every event charges once. -/
theorem waits_charged_iff (cfg : DispatchConfig) {start : Board} (unwaited : Unwaited id start)
    (events : List WaitEvent) :
    Throughout (waitStep cfg) (WaitsCharged cfg id) start events ↔
      Along (waitStep cfg) (ChargesOnce cfg id) start events := by
  -- The times of the log are an invariant; on them one step decides for one step.
  have initial : Timed id start ∧ WaitsCharged cfg id start := ⟨unwaited.timed, unwaited.charged⟩
  refine @throughout_iff_of_invariant _ _ _ (fun board => Timed id board ∧ WaitsCharged cfg id board) _ _
    (fun _ both => both.2) ?_ ?_ _ _ initial
  · rintro board event ⟨timed, charged⟩ later
    exact (waitStep_chargesOnce timed charged event).mp later
  · rintro board event ⟨timed, charged⟩ once
    exact ⟨timed_step timed event, (waitStep_chargesOnce timed charged event).mpr once⟩

/-- The load is waited for at the pickup: its driver has it, and a run with its pickup is under way. -/
def aPickup : Board where
  orders := ⟨[{ id := 1, status := .assigned, assignedTo := some "driver", pricingRateId := some 7 }], by decide⟩
  trips := ⟨[{ id := 1, driverUsername := some "driver", status := .active }], by decide⟩
  stops := ⟨[{ id := 1, tripId := 1, orderId := 1, kind := .pickup, sequence := 1 }], by decide⟩

/-- Nothing has happened to it yet. -/
theorem aPickup_unwaited : Unwaited 1 aPickup where
  -- Its log is empty.
  there := ⟨_, rfl⟩
  entries := fun _ member => absurd member List.not_mem_nil
  sorted := List.Pairwise.nil
  uncharged := by
    intro order found
    obtain rfl := List.mem_singleton.mp (Table.find?_eq_some.mp found).1
    exact ⟨rfl, rfl, rfl, rfl, rfl, rfl⟩

/-- An hour and a half at the pickup. -/
def waitAtPickup : List WaitEvent :=
  [.updateOrderStatus waitingDriver 1 (some .atPickup) "1234" false, .passes (90 * minute)]

/-- The driver leaves, waits as long at the drop, and confirms the delivery. -/
def carriedOn : List WaitEvent :=
  [.updateOrderStatus waitingDriver 1 (some .inTransit) "1234" false,
    .updateOrderStatus waitingDriver 1 (some .arrived) "1234" false, .passes (90 * minute),
    .confirmDelivery waitingDriver 1 aPhoto]

/-- The driver marks the pickup on the run as done. -/
def stopDone : List WaitEvent := waitAtPickup ++ [.updateStop waitingDriver 1 (some .done) none]

/-- The driver leaves, is sent back by force, and waits and leaves again. -/
def leftTwice : List WaitEvent :=
  waitAtPickup ++ [.updateOrderStatus waitingDriver 1 (some .pickedUp) "1234" false,
    .forceOrderStatus { username := "admin", role := .admin } 1 (some .assigned) "Sent back for the rest of it."] ++
  waitAtPickup ++ [.updateOrderStatus waitingDriver 1 (some .pickedUp) "1234" false]

/-- A wait that a stop ends is not charged for, and of two waits at the pickup the first is written over. -/
theorem wait_uncharged :
    Unwaited 1 aPickup ∧
    ¬ Throughout (waitStep .waiting) (WaitsCharged .waiting 1) aPickup stopDone ∧
    ¬ Throughout (waitStep .waiting) (WaitsCharged .waiting 1) aPickup leftTwice := by
  refine ⟨aPickup_unwaited, fun always => ?_, fun always => ?_⟩
  · cases found : (run (waitStep .waiting) aPickup stopDone).order 1 with
    | none => exact absurd found (by decide +kernel)
    | some order =>
      -- Six hundred are due, and nothing is charged.
      have lost := (by decide +kernel : ∀ order ∈ (run (waitStep .waiting) aPickup stopDone).orders.rows,
        orZero order.detentionAmount = 0 ∧
          order.worthOf .waiting ((run (waitStep .waiting) aPickup stopDone).ledger 1).due = 600)
        order (Table.find?_eq_some.mp found).1
      have worth := (always.last order found).worth
      rw [lost.1, lost.2] at worth
      norm_num at worth
  · cases found : (run (waitStep .waiting) aPickup leftTwice).order 1 with
    | none => exact absurd found (by decide +kernel)
    | some order =>
      -- Twelve hundred are charged, and six hundred of them are said to be for the pickup.
      have overwritten := (by decide +kernel : ∀ order ∈ (run (waitStep .waiting) aPickup leftTwice).orders.rows,
        orZero order.detentionAmount = 1200 ∧ orZero order.pickupDetentionAmount = 600 ∧
          orZero order.dropoffDetentionAmount = 0) order (Table.find?_eq_some.mp found).1
      have amounts := (always.last order found).amounts
      rw [overwritten.1, overwritten.2.1, overwritten.2.2] at amounts
      norm_num at amounts

/-- An order that is not at the pickup may be updated without a charge. -/
theorem chargesOnce_elsewhere {requester : Requester} {target : Nat} {asked : Option OrderStatus} {code : String}
    {committedLater : Bool} (rows : ∀ order ∈ board.orders.rows, order.status ≠ .atPickup) :
    ChargesOnce cfg id board (.updateOrderStatus requester target asked code committedLater) := by
  -- The row that is checked is one of those, so it is not at the pickup.
  intro order status passes _ _ was
  obtain ⟨-, found, -⟩ := statusChange_ok passes
  exact absurd was (rows order (Table.find?_eq_some.mp found).1)

/-- Its first stay at the pickup is charged for, where the log tells of it. -/
theorem chargesOnce_pickup {requester : Requester} {target : Nat} {asked : Option OrderStatus} {code : String}
    {committedLater : Bool} (arrived : (board.ledger id).last.map StatusLog.newStatus = some .atPickup)
    (rows : ∀ order ∈ board.orders.rows,
      orZero order.pickupDetentionAmount = 0 ∧ orZero order.pickupDetentionMinutes = 0) :
    ChargesOnce cfg id board (.updateOrderStatus requester target asked code committedLater) := by
  -- Nothing has been charged there yet, and the latest entry of the log is the arrival.
  rintro order status passes rfl _ _
  obtain ⟨-, found, -⟩ := statusChange_ok passes
  obtain ⟨member, rfl⟩ := Table.find?_eq_some.mp found
  exact ⟨fun _ => rows order member, .inl (Option.map_eq_some_iff.mp arrived)⟩

/-- So is its first stay at the drop. -/
theorem chargesOnce_drop {requester : Requester} {target : Nat} {proof : DeliveryProof}
    (arrived : (board.ledger id).last.map StatusLog.newStatus = some .arrived)
    (rows : ∀ order ∈ board.orders.rows,
      orZero order.dropoffDetentionAmount = 0 ∧ orZero order.dropoffDetentionMinutes = 0) :
    ChargesOnce cfg id board (.confirmDelivery requester target proof) := by
  -- Nothing has been charged there yet, and the latest entry of the log is the arrival.
  rintro order rfl found _
  obtain ⟨member, rfl⟩ := Table.find?_eq_some.mp found
  exact ⟨fun _ => rows order member, .inl (Option.map_eq_some_iff.mp arrived)⟩

/-- Left by the driver and delivered once, the order is charged for both of its waits. -/
theorem waits_charged_iff_carriedOn :
    Throughout (waitStep .waiting) (WaitsCharged .waiting 1) aPickup (waitAtPickup ++ carriedOn) := by
  -- Only leaving the pickup and the delivery charge anything, each for a first stay.
  refine (waits_charged_iff .waiting aPickup_unwaited _).mpr ⟨?_, trivial, ?_, ?_, trivial, ?_, trivial⟩
  · exact chargesOnce_elsewhere (by decide +kernel)
  · exact chargesOnce_pickup (by decide +kernel) (by decide +kernel)
  · exact chargesOnce_elsewhere (by decide +kernel)
  · exact chargesOnce_drop (by decide +kernel) (by decide +kernel)

end Runs

end Freight.Dispatch
